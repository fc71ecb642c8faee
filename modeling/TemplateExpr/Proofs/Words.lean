/-
Counting words and giving them a capital agree on what a word is.

Both walk a text with a flag that says whether a word is open, and the flag is right: a
position is where the walk counts, or puts a capital, exactly if a maximal run of word
characters begins there.  So the count is the number of these runs, and capitals come at
their first positions and nowhere else.  That one walk asks for a letter and the other for
any word character makes no difference, since only letters have another case.

The count is kept by what keeps the class of every character, and by trimming, because
whitespace belongs to no word and a gap that is shortened still separates.

A walk that carries a flag is compared with positions by one equation for each step: the
flag in front of a character is whether the character before belongs to a word.
-/
import Mathlib.Data.Nat.Count
import Mathlib.Data.Set.Card
import TemplateExpr.Proofs.Trim
import TemplateExpr.Proofs.Unicode.Classes

namespace TemplateExpr.Words

open Unicode (isAlphabetic isAlphanumeric)
open Trim (Blank Spaced)

variable {b : Bool} {c d : Char} {cs gap s t : List Char} {i j first stop : Nat}

/-! ### Words

A word is described by its two ends and by what stands just outside of them.  It is
determined by where it starts, so counting words is counting starts; the flag of the
walk matters for the first position only.
-/

/-- Whether the character at a position belongs to a word. -/
def wordAt (cs : List Char) (i : Nat) : Bool := cs[i]?.any isAlphanumeric

/-- A word: a run of word characters that reaches as far as it can on both sides. -/
structure IsWord (cs : List Char) (first stop : Nat) : Prop where
  nonempty : first < stop
  inside : ∀ i, first ≤ i → i < stop → wordAt cs i = true
  before : ∀ i, i + 1 = first → wordAt cs i = false
  after : wordAt cs stop = false

/-- Whether a word starts at a position; `inWord` says if one is open before the text. -/
def startsAt (inWord : Bool) (cs : List Char) : Nat → Bool
  | 0 => !inWord && wordAt cs 0
  | i + 1 => !wordAt cs i && wordAt cs (i + 1)

theorem startsAt_cons_zero (b : Bool) (c : Char) (cs : List Char) :
    startsAt b (c :: cs) 0 = (!b && isAlphanumeric c) :=
  rfl

theorem startsAt_cons_succ (b : Bool) (c : Char) (cs : List Char) (i : Nat) :
    startsAt b (c :: cs) (i + 1) = startsAt (isAlphanumeric c) cs i := by
  cases i <;> rfl

theorem wordAt_of_length_le (h : cs.length ≤ i) : wordAt cs i = false := by
  rw [wordAt, List.getElem?_eq_none h]
  rfl

theorem lt_length_of_wordAt (h : wordAt cs i = true) : i < cs.length := by
  by_contra hle
  rw [wordAt_of_length_le (Nat.le_of_not_lt hle)] at h
  cases h

theorem wordAt_of_startsAt (h : startsAt b cs i = true) : wordAt cs i = true := by
  cases i with
  | zero => exact (Bool.and_eq_true_iff.mp h).2
  | succ i => exact (Bool.and_eq_true_iff.mp h).2

theorem IsWord.startsAt (h : IsWord cs first stop) : startsAt false cs first = true := by
  have hfirst : wordAt cs first = true := h.inside first (Nat.le_refl first) h.nonempty
  cases first with
  | zero => exact hfirst
  | succ i =>
      rw [Words.startsAt, h.before i rfl, hfirst]
      rfl

/-- A word goes on to the first position after its start that belongs to none. -/
theorem exists_isWord_iff : (∃ stop, IsWord cs first stop) ↔ startsAt false cs first = true := by
  refine ⟨fun ⟨_, h⟩ => h.startsAt, fun h => ?_⟩
  have hfirst := wordAt_of_startsAt h
  have hstop : ∃ stop, first < stop ∧ wordAt cs stop = false :=
    ⟨cs.length, lt_length_of_wordAt hfirst, wordAt_of_length_le (Nat.le_refl _)⟩
  refine ⟨Nat.find hstop, (Nat.find_spec hstop).1, fun i hi hlt => ?_, fun i hi => ?_,
    (Nat.find_spec hstop).2⟩
  · obtain rfl | hgt := Nat.eq_or_lt_of_le hi
    · exact hfirst
    · by_contra hword
      exact Nat.find_min hstop hlt ⟨hgt, Bool.not_eq_true _ ▸ hword⟩
  · subst hi
    simpa using (Bool.and_eq_true_iff.mp h).1

theorem IsWord.stop_le (h : IsWord cs first stop) (h' : IsWord cs first j) : stop ≤ j := by
  by_contra hlt
  have hinside := h.inside j (Nat.le_of_lt h'.nonempty) (Nat.lt_of_not_le hlt)
  rw [h'.after] at hinside
  cases hinside

/-! ### The count -/

theorem countFrom_cons (b : Bool) (c : Char) (cs : List Char) :
    countFrom b (c :: cs) =
      countFrom (isAlphanumeric c) cs + if !b && isAlphanumeric c then 1 else 0 := by
  rw [countFrom]
  exact (apply_ite (countFrom (isAlphanumeric c) cs + ·) _ 1 0).symm

/-- The walk counts the positions where a word starts. -/
theorem countFrom_eq_count (b : Bool) (cs : List Char) :
    countFrom b cs = Nat.count (fun i => startsAt b cs i = true) cs.length := by
  induction cs generalizing b with
  | nil => rfl
  | cons c cs ih =>
      rw [List.length_cons, Nat.count_succ', countFrom_cons, ih]
      simp only [startsAt_cons_succ, startsAt_cons_zero]
      rfl

/-- **The count is the number of words.** -/
theorem encard_isWord (cs : List Char) : {w : Nat × Nat | IsWord cs w.1 w.2}.encard = count cs := by
  have hinj : Set.InjOn Prod.fst {w : Nat × Nat | IsWord cs w.1 w.2} := by
    rintro ⟨first, stop⟩ h ⟨_, stop'⟩ h' rfl
    exact congrArg (Prod.mk first) (Nat.le_antisymm (IsWord.stop_le h h') (IsWord.stop_le h' h))
  have himage : Prod.fst '' {w : Nat × Nat | IsWord cs w.1 w.2} =
      ((Finset.range cs.length).filter fun i => startsAt false cs i = true : Finset Nat) := by
    ext i
    simp only [Set.mem_image, Set.mem_ofPred_eq, Prod.exists, exists_and_right, exists_eq_right,
      Finset.coe_filter, Finset.mem_range, exists_isWord_iff]
    exact (and_iff_right_of_imp fun h => lt_length_of_wordAt (wordAt_of_startsAt h)).symm
  rw [← hinj.encard_image, himage, Set.encard_coe_eq_coe_finsetCard,
    ← Nat.count_eq_card_filter_range, ← countFrom_eq_count]
  rfl

/-- A text counts by the classes of its characters alone. -/
theorem countFrom_congr (h : s.map isAlphanumeric = t.map isAlphanumeric) (b : Bool) :
    countFrom b s = countFrom b t := by
  induction s generalizing b t with
  | nil =>
      cases t with
      | nil => rfl
      | cons d t => cases h
  | cons c s ih =>
      cases t with
      | nil => cases h
      | cons d t =>
          obtain ⟨hc, hrest⟩ := List.cons.inj h
          rw [countFrom_cons, countFrom_cons, hc, ih hrest]

theorem countFrom_cons_separator (hd : isAlphanumeric d = false) (b : Bool) (cs : List Char) :
    countFrom b (d :: cs) = countFrom false cs := by
  rw [countFrom_cons, hd, Bool.and_false]
  rfl

/-- A separator parts the words before it from those after it. -/
theorem countFrom_append_separator (hd : isAlphanumeric d = false) (b : Bool) (s t : List Char) :
    countFrom b (s ++ d :: t) = countFrom b s + countFrom false t := by
  induction s generalizing b with
  | nil => rw [List.nil_append, countFrom_cons_separator hd, countFrom, Nat.zero_add]
  | cons c s ih =>
      rw [List.cons_append, countFrom_cons, countFrom_cons, ih]
      exact Nat.add_right_comm _ _ _

/-! ### Capitals

A capital replaces a character by one of the same class, so the words of the text stay
where they are.  That makes the walk idempotent: the second time it finds the same
starts, with capitals on them.
-/

/-- Asking for a letter and asking for a word character give the same capital. -/
theorem capital_eq (b : Bool) (c : Char) :
    (if !b && isAlphabetic c then c.toUpper else c) =
      if !b && isAlphanumeric c then c.toUpper else c := by
  cases h : c.isAlpha with
  | false => rw [Unicode.toUpper_of_isAlpha_eq_false h, ite_self, ite_self]
  | true => rw [Unicode.isAlphabetic_of_isAlpha h, Unicode.isAlphanumeric_of_isAlpha h]

/-- The walk puts a capital where a word starts. -/
theorem getElem?_capitalizeFrom (b : Bool) (cs : List Char) (i : Nat) :
    (capitalizeFrom b cs)[i]? =
      cs[i]?.map fun c => if startsAt b cs i then c.toUpper else c := by
  induction cs generalizing b i with
  | nil => rfl
  | cons c cs ih =>
      rw [capitalizeFrom, capital_eq]
      cases i with
      | zero => rfl
      | succ i => simp only [List.getElem?_cons_succ, startsAt_cons_succ, ih]

theorem length_capitalizeFrom (b : Bool) (cs : List Char) :
    (capitalizeFrom b cs).length = cs.length := by
  induction cs generalizing b with
  | nil => rfl
  | cons c cs ih => rw [capitalizeFrom, List.length_cons, List.length_cons, ih]

theorem isAlphanumeric_capital (p : Prop) [Decidable p] (c : Char) :
    isAlphanumeric (if p then c.toUpper else c) = isAlphanumeric c := by
  split
  · exact Unicode.isAlphanumeric_toUpper c
  · rfl

theorem map_isAlphanumeric_capitalizeFrom (b : Bool) (cs : List Char) :
    (capitalizeFrom b cs).map isAlphanumeric = cs.map isAlphanumeric := by
  induction cs generalizing b with
  | nil => rfl
  | cons c cs ih => rw [capitalizeFrom, List.map_cons, List.map_cons, ih, isAlphanumeric_capital]

/-- A capital stays one, and the words of the text start where they did. -/
theorem capitalizeFrom_capitalizeFrom (b : Bool) (cs : List Char) :
    capitalizeFrom b (capitalizeFrom b cs) = capitalizeFrom b cs := by
  induction cs generalizing b with
  | nil => rfl
  | cons c cs ih =>
      rw [capitalizeFrom, capitalizeFrom, isAlphanumeric_capital, ih]
      congr 1
      split
      · rw [Unicode.toUpper_toUpper, ite_self]
      · rfl

/-- A capital is put on a lower-case letter that starts a word, and nothing else is changed. -/
theorem capitalize_changes (hc : s[i]? = some c) (hd : (capitalize s)[i]? = some d) :
    (d ≠ c ↔ (∃ stop, IsWord s i stop) ∧ c.isLower = true) ∧
      (d ≠ c → d.isUpper = true ∧ d.toLower = c) := by
  rw [capitalize, getElem?_capitalizeFrom, hc, Option.map_some, Option.some.injEq] at hd
  rw [exists_isWord_iff]
  cases hstart : startsAt false s i with
  | false =>
      rw [hstart] at hd
      simp [← hd]
  | true =>
      rw [hstart, if_pos rfl] at hd
      subst hd
      rw [Unicode.toUpper_ne_self_iff]
      refine ⟨(and_iff_right rfl).symm, fun hlower => ⟨?_, ?_⟩⟩
      · rw [Unicode.isUpper_toUpper]
        exact Unicode.isAlpha_iff.mpr (.inr hlower)
      · exact Unicode.toLower_toUpper_of_isLower hlower

/-! ### What keeps the count

Filters that change characters one by one keep the class of each, and the count only
looks at classes.  Trimming shortens gaps, which hold no word and still separate when
they are one character long.
-/

theorem countFrom_blank (hgap : Blank gap) (b : Bool) : countFrom b gap = 0 := by
  induction gap generalizing b with
  | nil => rfl
  | cons c gap ih =>
      obtain ⟨hc, hrest⟩ := Trim.blank_cons_iff.mp hgap
      rw [countFrom_cons_separator (Unicode.isAlphanumeric_eq_false_of_isWhitespace hc), ih hrest]

theorem countFrom_blank_append (hgap : Blank gap) (cs : List Char) :
    countFrom false (gap ++ cs) = countFrom false cs := by
  induction gap with
  | nil => rfl
  | cons c gap ih =>
      obtain ⟨hc, hrest⟩ := Trim.blank_cons_iff.mp hgap
      rw [List.cons_append,
        countFrom_cons_separator (Unicode.isAlphanumeric_eq_false_of_isWhitespace hc), ih hrest]

/-- A gap separates by its first character. -/
theorem countFrom_gap_append (hgap : Blank gap) (b : Bool) (cs : List Char) :
    countFrom b (gap.take 1 ++ cs) = countFrom b (gap ++ cs) := by
  cases gap with
  | nil => rfl
  | cons c gap =>
      obtain ⟨hc, hrest⟩ := Trim.blank_cons_iff.mp hgap
      have hsep := Unicode.isAlphanumeric_eq_false_of_isWhitespace hc
      rw [List.cons_append, countFrom_cons_separator hsep, countFrom_blank_append hrest]
      exact countFrom_cons_separator hsep b cs

theorem countFrom_append_congr (h : ∀ b, countFrom b s = countFrom b t) (b : Bool)
    (cs : List Char) : countFrom b (cs ++ s) = countFrom b (cs ++ t) := by
  induction cs generalizing b with
  | nil => exact h b
  | cons c cs ih => rw [List.cons_append, List.cons_append, countFrom_cons, countFrom_cons, ih]

theorem countFrom_spaced (h : Spaced s t) (b : Bool) : countFrom b t = countFrom b s := by
  induction h generalizing b with
  | last _ hgap => rw [countFrom_cons, countFrom_cons, countFrom_blank hgap]; rfl
  | next _ hgap _ _ ih =>
      rw [countFrom_cons, countFrom_cons, countFrom_gap_append hgap, countFrom_append_congr ih]

theorem count_normalize (s : List Char) : count (Trim.normalize s) = count s := by
  obtain ⟨hblank, hnil⟩ | ⟨lead, s', rfl, hlead, hspaced⟩ := Trim.normalize_cases s
  · rw [hnil]
    exact (countFrom_blank hblank false).symm
  · exact (countFrom_spaced hspaced false).trans (countFrom_blank_append hlead s').symm

/-- The filters that change a text and keep its words. -/
def keepsWords : List Filter := [.trim, .upper, .lower, .title]

theorem exists_result_of_keepsWords {f : Filter} (hf : f ∈ keepsWords) (u : Text)
    (args : List Value) :
    ∃ u', f.result u args = .text u' ∧ u'.width = u.width ∧ count u'.chars = count u.chars := by
  have hmap : ∀ g : List Char → List Char, (∀ cs, count (g cs) = count cs) →
      count (u.mapChars g).chars = count u.chars := fun g hg => by
    rw [Text.chars_mapChars, hg]
  simp only [keepsWords, List.mem_cons, List.not_mem_nil, or_false] at hf
  obtain rfl | rfl | rfl | rfl := hf
  · exact ⟨_, rfl, Text.width_mapChars _ u, hmap _ count_normalize⟩
  · exact ⟨_, rfl, Text.width_mapChars _ u, hmap _ fun cs => countFrom_congr (by simp) false⟩
  · exact ⟨_, rfl, Text.width_mapChars _ u, hmap _ fun cs => countFrom_congr (by simp) false⟩
  · exact ⟨_, rfl, Text.width_mapChars _ u,
      hmap _ fun cs => countFrom_congr (map_isAlphanumeric_capitalizeFrom false cs) false⟩

/--
**Capitals and counting see the same words, and filters keep them.**  The count is the number
of words.  A capital is put on the first character of each word that is a lower-case ASCII
letter; the text keeps its length and every other character, and doing it again changes
nothing.  Upper case after lower case is upper case.  Each of the filters that trim a text or
change its case keeps the count, and with it what counting the words of the result gives.  A
character that belongs to no word parts the words before it from those after it.
-/
theorem words_respect_filters (s : List Char) :
    {w : Nat × Nat | IsWord s w.1 w.2}.encard = count s ∧
    (capitalize s).length = s.length ∧
    (∀ i c d, s[i]? = some c → (capitalize s)[i]? = some d →
      (d ≠ c ↔ (∃ stop, IsWord s i stop) ∧ c.isLower = true) ∧
        (d ≠ c → d.isUpper = true ∧ d.toLower = c)) ∧
    capitalize (capitalize s) = capitalize s ∧
    (s.map Char.toLower).map Char.toUpper = s.map Char.toUpper ∧
    (∀ f ∈ keepsWords, ∀ (u : Text) (args : List Value), u.chars = s →
      ∃ u', f.result u args = .text u' ∧ u'.width = u.width ∧ count u'.chars = count s ∧
        ∀ args', Filter.wordCount.result u' args' = Filter.wordCount.result u args') ∧
    ∀ d t, isAlphanumeric d = false → count (s ++ [d] ++ t) = count s + count t := by
  have hcase : (s.map Char.toLower).map Char.toUpper = s.map Char.toUpper := by
    rw [List.map_map]
    exact List.map_congr_left fun c _ => Unicode.toUpper_toLower c
  refine ⟨encard_isWord s, length_capitalizeFrom false s, fun i c d => capitalize_changes,
    capitalizeFrom_capitalizeFrom false s, hcase, ?_, fun d t hd => ?_⟩
  · rintro f hf u args rfl
    obtain ⟨u', hresult, hwidth, hcount⟩ := exists_result_of_keepsWords hf u args
    refine ⟨u', hresult, hwidth, hcount, fun args' => ?_⟩
    exact congrArg (fun n => Payload.int (Int64.ofNat n)) hcount
  · rw [List.append_assoc]
    exact countFrom_append_separator hd false s t

/-- A hyphen parts two words; the second starts with a letter that gets a capital. -/
theorem words_respect_filters_hyphen :
    count ['1', 's', 't', '-', 's'] = 2 ∧ ∃ stop, IsWord ['1', 's', 't', '-', 's'] 4 stop := by
  obtain ⟨-, -, -, -, -, -, hparts⟩ := words_respect_filters ['1', 's', 't']
  have hcount := hparts '-' ['s'] (by decide +kernel)
  obtain ⟨-, -, hchange, -⟩ := words_respect_filters ['1', 's', 't', '-', 's']
  obtain ⟨hstart, -⟩ := hchange 4 's' 'S' rfl (by decide +kernel)
  exact ⟨hcount.trans (by decide +kernel), (hstart.mp (by decide)).1⟩

end TemplateExpr.Words
