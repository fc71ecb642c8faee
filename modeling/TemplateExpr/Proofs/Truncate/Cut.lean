/-
Where a text is cut so that no word is split.

The soft cut is found by counting and stripping; here it is described by positions.  It is
made at the first separator from the length on, if the leeway reaches that far, and
otherwise at the last separator before the length, or at the start.  The word run of what
is beyond the length decides which: a run within the leeway ends at the first separator or
at the end of the text, and a longer one shows that there is no separator within reach.

The description has two levels.  `SoftCut` says where a cut belongs and does not mention
the walk; `exists_softCut` says that this is where `soft` cuts.  So what is said about
splitting words and about lengths follows from the description alone.
-/
import TemplateExpr.Proofs.Truncate.Walk
import TemplateExpr.Proofs.Unicode.Classes
import Mathlib.Data.List.Induction
import Mathlib.Order.Bounds.Basic

namespace TemplateExpr.Truncate

open Unicode (isWhitespace isAlphanumeric)

variable {L n i j : Nat} {length leeway : Int64} {c : Char} {cs ending : List Char}

/-! ### Separators

Positions carry over to parts of a text with an offset, and the text up to a position
ends in a word exactly if the walk back has something to do.  These are the facts that
turn counting and stripping into statements about positions.
-/

/-- The character at `i` belongs to no word. -/
def Separator (cs : List Char) (i : Nat) : Prop :=
  ∃ c, cs[i]? = some c ∧ isAlphanumeric c = false

/-- The characters on both sides of a cut at `k` belong to one word. -/
def SplitsWord (cs : List Char) (k : Nat) : Prop :=
  ∃ i c d, k = i + 1 ∧ cs[i]? = some c ∧ cs[i + 1]? = some d ∧
    isAlphanumeric c = true ∧ isAlphanumeric d = true

theorem Separator.lt_length (h : Separator cs i) : i < cs.length := by
  obtain ⟨c, hget, -⟩ := h
  exact (List.getElem?_eq_some_iff.mp hget).1

theorem not_separator_of_word (hget : cs[i]? = some c) (hc : isAlphanumeric c = true) :
    ¬Separator cs i := by
  rintro ⟨d, hd, hsep⟩
  obtain rfl : c = d := Option.some.inj (hget.symm.trans hd)
  exact absurd hc (ne_true_of_eq_false hsep)

theorem not_splitsWord_of_separator (h : Separator cs i) : ¬SplitsWord cs i := by
  rintro ⟨k, c, d, rfl, -, hd, -, hword⟩
  exact not_separator_of_word hd hword h

theorem separator_drop : Separator (cs.drop L) i ↔ Separator cs (L + i) := by
  unfold Separator
  rw [List.getElem?_drop]

theorem separator_take : Separator (cs.take n) i ↔ i < n ∧ Separator cs i := by
  unfold Separator
  by_cases hlt : i < n
  · rw [List.getElem?_take_of_lt hlt, and_iff_right hlt]
  · rw [List.getElem?_take_eq_none (Nat.not_lt.mp hlt)]
    exact ⟨fun ⟨_, hget, _⟩ => (nomatch hget), fun h => absurd h.1 hlt⟩

theorem separator_append_word (hc : isAlphanumeric c = true) (cs : List Char) :
    Separator (cs ++ [c]) i ↔ Separator cs i := by
  refine ⟨fun h => ?_, fun ⟨d, hget, hd⟩ => ⟨d, ?_, hd⟩⟩
  · have hlt := h.lt_length
    rw [List.length_append, List.length_singleton] at hlt
    have hne : i ≠ cs.length := by
      rintro rfl
      exact not_separator_of_word List.getElem?_concat_length hc h
    obtain ⟨d, hget, hd⟩ := h
    rw [List.getElem?_append_left (by omega)] at hget
    exact ⟨d, hget, hd⟩
  · rw [List.getElem?_append_left (List.getElem?_eq_some_iff.mp hget).1]
    exact hget

/-- Within its first run a text has only word characters. -/
theorem word_of_lt_wordRun (h : i < wordRun cs) :
    ∃ c, cs[i]? = some c ∧ isAlphanumeric c = true := by
  have hfront : cs.takeWhile isAlphanumeric <+: cs := List.takeWhile_prefix _
  refine ⟨(cs.takeWhile isAlphanumeric)[i], ?_, List.all_eq_true.mp List.all_takeWhile _
    (List.getElem_mem h)⟩
  rw [hfront.getElem h]
  exact List.getElem?_eq_getElem _

theorem not_separator_of_lt_wordRun (hi : L ≤ i) (hlt : i < L + wordRun (cs.drop L)) :
    ¬Separator cs i := by
  have hrun : i - L < wordRun (cs.drop L) := by omega
  obtain ⟨c, hget, hc⟩ := word_of_lt_wordRun hrun
  rw [List.getElem?_drop, Nat.add_sub_cancel' hi] at hget
  exact not_separator_of_word hget hc

/-- The first run of a text ends at a separator or with the text. -/
theorem separator_wordRun (h : wordRun cs < cs.length) : Separator cs (wordRun cs) := by
  induction cs with
  | nil => exact absurd h (Nat.lt_irrefl 0)
  | cons c cs ih =>
      cases hc : isAlphanumeric c with
      | false =>
          rw [wordRun_cons_of_separator hc]
          exact ⟨c, rfl, hc⟩
      | true =>
          rw [wordRun_cons_of_word hc] at h ⊢
          exact ih (Nat.lt_of_succ_lt_succ h)

theorem wordRun_eq_length_iff : wordRun cs = cs.length ↔ ∀ c ∈ cs, isAlphanumeric c = true := by
  rw [← List.takeWhile_eq_self_iff]
  exact ⟨(List.takeWhile_prefix _).eq_of_length, congrArg List.length⟩

/-- Backing off goes to the last separator, or to the start if there is none. -/
theorem backOff_cases (cs : List Char) :
    (∀ i, ¬Separator cs i) ∧ backOff cs = [] ∨
      IsGreatest {i | Separator cs i} (backOff cs).length := by
  induction cs using List.reverseRecOn with
  | nil => exact .inl ⟨fun i h => absurd h.lt_length (Nat.not_lt_zero i), rfl⟩
  | append_singleton cs c ih =>
      cases hc : isAlphanumeric c with
      | true =>
          rw [backOff_append_of_word hc]
          simpa only [separator_append_word hc] using ih
      | false =>
          rw [backOff_append_of_separator hc]
          refine .inr ⟨⟨c, List.getElem?_concat_length, hc⟩, fun i h => ?_⟩
          have hlt := h.lt_length
          rw [List.length_append, List.length_singleton] at hlt
          exact Nat.le_of_lt_succ hlt

/-! ### The cut

The three constructors are the three places a cut can be made at.  They exclude each
other, so the cut is unique; and each of them is next to a separator or at the start, so
that no cut splits a word.
-/

/-- The text fits, or all it has beyond the length is a word within the leeway. -/
def Fits (L n : Nat) (cs : List Char) : Prop :=
  cs.length ≤ L ∨ (cs.drop L).length ≤ n ∧ ∀ c ∈ cs.drop L, isAlphanumeric c = true

/-- Where a text is cut for a length `L` and a leeway `n`. -/
inductive SoftCut (L n : Nat) (cs : List Char) : Nat → Prop
  | ahead {j : Nat} (hleast : IsLeast {i | L ≤ i ∧ Separator cs i} j) (hreach : j ≤ L + n) :
      SoftCut L n cs j
  | behind {j : Nat} (hnone : ∀ i, L ≤ i → i ≤ L + n → ¬Separator cs i)
      (hgreatest : IsGreatest {i | i < L ∧ Separator cs i} j) : SoftCut L n cs j
  | start (hnone : ∀ i, i ≤ L + n → ¬Separator cs i) : SoftCut L n cs 0

theorem SoftCut.unique (hi : SoftCut L n cs i) (hj : SoftCut L n cs j) : i = j := by
  cases hi with
  | ahead hleast hreach =>
      cases hj with
      | ahead hleast' _ => exact hleast.unique hleast'
      | behind hnone _ => exact absurd hleast.1.2 (hnone i hleast.1.1 hreach)
      | start hnone => exact absurd hleast.1.2 (hnone i hreach)
  | behind hnone hgreatest =>
      cases hj with
      | ahead hleast hreach => exact absurd hleast.1.2 (hnone j hleast.1.1 hreach)
      | behind _ hgreatest' => exact hgreatest.unique hgreatest'
      | start hnone' => exact absurd hgreatest.1.2 (hnone' i (by have := hgreatest.1.1; omega))
  | start hnone =>
      cases hj with
      | ahead hleast hreach => exact absurd hleast.1.2 (hnone j hreach)
      | behind _ hgreatest => exact absurd hgreatest.1.2 (hnone j (by have := hgreatest.1.1; omega))
      | start _ => rfl

theorem SoftCut.le (h : SoftCut L n cs j) : j ≤ L + n := by
  cases h with
  | ahead _ hreach => exact hreach
  | behind _ hgreatest => exact Nat.le_trans (Nat.le_of_lt hgreatest.1.1) (Nat.le_add_right L n)
  | start _ => exact Nat.zero_le _

theorem SoftCut.separator_or_zero (h : SoftCut L n cs j) : Separator cs j ∨ j = 0 := by
  cases h with
  | ahead hleast _ => exact .inl hleast.1.2
  | behind _ hgreatest => exact .inl hgreatest.1.2
  | start _ => exact .inr rfl

/-- Stripping the end of a text takes nothing, or stops before a character it takes. -/
theorem dropEndWhile_cases (p : Char → Bool) (cs : List Char) :
    Trim.dropEndWhile p cs = cs ∨
      ∃ c, cs[(Trim.dropEndWhile p cs).length]? = some c ∧ p c = true := by
  show List.rdropWhile p cs = cs ∨ ∃ c, cs[(List.rdropWhile p cs).length]? = some c ∧ p c = true
  induction cs using List.reverseRecOn with
  | nil => exact .inl rfl
  | append_singleton cs c ih =>
      cases hc : p c with
      | false => exact .inl (List.rdropWhile_concat_neg _ _ _ (ne_true_of_eq_false hc))
      | true =>
          rw [List.rdropWhile_concat_pos _ _ _ hc]
          obtain heq | ⟨d, hget, hd⟩ := ih
          · rw [heq]
            exact .inr ⟨c, List.getElem?_concat_length, hc⟩
          · refine .inr ⟨d, ?_, hd⟩
            rwa [List.getElem?_append_left (List.getElem?_eq_some_iff.mp hget).1]

theorem dropEndWhile_isPrefix (p : Char → Bool) (cs : List Char) : Trim.dropEndWhile p cs <+: cs :=
  List.rdropWhile_prefix p cs

/-- What is kept before a soft cut does not end inside a word. -/
theorem SoftCut.not_splitsWord (h : SoftCut L n cs j) :
    ¬SplitsWord cs (Trim.dropEndWhile isWhitespace (cs.take j)).length := by
  obtain heq | ⟨c, hget, hc⟩ := dropEndWhile_cases isWhitespace (cs.take j)
  · obtain hsep | rfl := h.separator_or_zero
    · rw [heq, List.length_take_of_le (Nat.le_of_lt hsep.lt_length)]
      exact not_splitsWord_of_separator hsep
    · rintro ⟨i, c, d, hlength, -⟩
      rw [heq, List.take_zero, List.length_nil] at hlength
      cases hlength
  · -- The first whitespace that is stripped separates what is kept from what follows.
    have hsep : Separator (cs.take j) (Trim.dropEndWhile isWhitespace (cs.take j)).length :=
      ⟨c, hget, Unicode.isAlphanumeric_eq_false_of_isWhitespace hc⟩
    exact not_splitsWord_of_separator (separator_take.mp hsep).2

theorem SoftCut.length_le (h : SoftCut L n cs j) :
    (Trim.dropEndWhile isWhitespace (cs.take j)).length ≤ L + n :=
  calc (Trim.dropEndWhile isWhitespace (cs.take j)).length
    _ ≤ (cs.take j).length := (dropEndWhile_isPrefix _ _).length_le
    _ ≤ j := List.length_take_le j cs
    _ ≤ L + n := h.le

/-! ### Where the walk cuts -/

section

variable (hn : leeway.toUInt64.toNat = n)

include hn

theorem soft_of_run_to_end (hrun : wordRun (cs.drop L) ≤ n)
    (hend : L + wordRun (cs.drop L) = cs.length) : soft L ending leeway cs = cs := by
  have hpos : L + overrun leeway (cs.drop L) = cs.length := by
    rw [overrun_eq_min, hn, Nat.min_eq_right hrun, hend]
  exact soft_of_end hpos List.drop_length

/-- A run within the leeway that does not reach the end of the text ends at the first separator. -/
theorem softCut_of_run (hrun : wordRun (cs.drop L) ≤ n)
    (hend : L + wordRun (cs.drop L) < cs.length) :
    ∃ j, SoftCut L n cs j ∧
      soft L ending leeway cs = Trim.dropEndWhile isWhitespace (cs.take j) ++ ending := by
  have hpos : L + overrun leeway (cs.drop L) = L + wordRun (cs.drop L) := by
    rw [overrun_eq_min, hn, Nat.min_eq_right hrun]
  have hsep : Separator cs (L + wordRun (cs.drop L)) :=
    separator_drop.mp (separator_wordRun (by rw [List.length_drop]; omega))
  have hleast : IsLeast {i | L ≤ i ∧ Separator cs i} (L + wordRun (cs.drop L)) := by
    refine ⟨⟨Nat.le_add_right _ _, hsep⟩, fun i ⟨hi, hsep'⟩ => Nat.le_of_not_lt fun hlt => ?_⟩
    exact not_separator_of_lt_wordRun hi hlt hsep'
  obtain ⟨c, hget, hc⟩ := hsep
  exact ⟨_, .ahead hleast (Nat.add_le_add_left hrun L), soft_of_separator hpos hget hc⟩

/-- A run longer than the leeway leaves no separator within reach, so the cut goes back. -/
theorem softCut_of_long_run (hrun : n < wordRun (cs.drop L)) :
    ∃ j, SoftCut L n cs j ∧
      soft L ending leeway cs = Trim.dropEndWhile isWhitespace (cs.take j) ++ ending := by
  have hpos : L + overrun leeway (cs.drop L) = L + n := by
    rw [overrun_eq_min, hn, Nat.min_eq_left (Nat.le_of_lt hrun)]
  have hnone : ∀ i, L ≤ i → i ≤ L + n → ¬Separator cs i := fun i hi hreach =>
    not_separator_of_lt_wordRun hi (Nat.lt_of_le_of_lt hreach (Nat.add_lt_add_left hrun L))
  obtain ⟨c, hget, hc⟩ := word_of_lt_wordRun hrun
  rw [List.getElem?_drop] at hget
  have hkept : backOff (cs.take (L + n)) = cs.take (backOff (cs.take (L + n))).length :=
    List.prefix_iff_eq_take.mp ((backOff_isPrefix _).trans (List.take_prefix _ _))
  refine ⟨(backOff (cs.take (L + n))).length, ?_, by rw [← hkept, soft_of_word hpos hget hc]⟩
  have hbefore : ∀ i, Separator (cs.take (L + n)) i ↔ i < L ∧ Separator cs i := by
    intro i
    rw [separator_take]
    refine ⟨fun ⟨hlt, hsep⟩ => ⟨?_, hsep⟩, fun ⟨hlt, hsep⟩ => ⟨Nat.lt_add_right n hlt, hsep⟩⟩
    exact Nat.lt_of_not_le fun hi => hnone i hi (Nat.le_of_lt hlt) hsep
  obtain ⟨hempty, hstart⟩ | hgreatest := backOff_cases (cs.take (L + n))
  · rw [hstart]
    refine .start fun i hreach hsep => ?_
    obtain hlt | hi := Nat.lt_or_ge i L
    · exact hempty i ((hbefore i).mpr ⟨hlt, hsep⟩)
    · exact hnone i hi hreach hsep
  · simp only [hbefore] at hgreatest
    exact .behind hnone hgreatest

end

theorem wordRun_eq_of_fits (hL : L < cs.length) (hfits : Fits L n cs) :
    wordRun (cs.drop L) ≤ n ∧ L + wordRun (cs.drop L) = cs.length := by
  obtain hle | ⟨hlength, hword⟩ := hfits
  · exact absurd hL (Nat.not_lt.mpr hle)
  · rw [wordRun_eq_length_iff.mpr hword]
    refine ⟨hlength, ?_⟩
    rw [List.length_drop]
    omega

theorem fits_of_wordRun_eq (hrun : wordRun (cs.drop L) ≤ n)
    (hend : L + wordRun (cs.drop L) = cs.length) : Fits L n cs := by
  have hlength : wordRun (cs.drop L) = (cs.drop L).length := by
    rw [List.length_drop]
    omega
  exact .inr ⟨hlength ▸ hrun, wordRun_eq_length_iff.mp hlength⟩

/-- A text that does not fit is cut. -/
theorem exists_softCut (ending : List Char) (hL : L < cs.length) (hn : leeway.toUInt64.toNat = n)
    (hfits : ¬Fits L n cs) :
    ∃ j, SoftCut L n cs j ∧
      soft L ending leeway cs = Trim.dropEndWhile isWhitespace (cs.take j) ++ ending := by
  obtain hlong | hrun := Nat.lt_or_ge n (wordRun (cs.drop L))
  · exact softCut_of_long_run hn hlong
  · have hle := wordRun_le_length (cs.drop L)
    rw [List.length_drop] at hle
    have hne : L + wordRun (cs.drop L) ≠ cs.length :=
      fun hend => hfits (fits_of_wordRun_eq hrun hend)
    exact softCut_of_run hn hrun (by omega)

/-- The hard cut, for a leeway of either sign. -/
theorem hard_eq (L : Nat) (ending : List Char) (leeway : Int64) (cs : List Char) :
    hard L ending leeway cs =
      if (cs.length : Int) ≤ max (L : Int) (L + leeway.toInt) then cs else cs.take L ++ ending := by
  have hclamp : leeway.toNatClampNeg = leeway.toInt.toNat := rfl
  rw [hard, hclamp]
  exact if_congr (by omega) rfl rfl

/--
**Truncation cuts where its closed form says.**  The hard cut is made at the length.  With a
leeway `n` the soft cut keeps what fits; anything else is cut at a position that only the
separators decide, and stripped.  What it keeps before the end text is at most the length
and the leeway, and it never ends between two characters of a word.  Neither cut reads out
of bounds or underflows on its way.
-/
theorem truncate_closed_form (length leeway : Int64) (ending cs : List Char) (L : Nat)
    (hlength : (L : Int) = max length.toInt 0) :
    (truncate? length true ending leeway cs = some (truncate length true ending leeway cs) ∧
      truncate length true ending leeway cs =
        if (cs.length : Int) ≤ max (L : Int) (L + leeway.toInt) then cs else cs.take L ++ ending) ∧
    ∀ n : Nat, leeway.toInt = n →
      truncate? length false ending leeway cs = some (truncate length false ending leeway cs) ∧
      (Fits L n cs → truncate length false ending leeway cs = cs) ∧
      (¬Fits L n cs →
        (∃ j, SoftCut L n cs j) ∧
        ∀ j, SoftCut L n cs j → ∀ kept, kept = Trim.dropEndWhile isWhitespace (cs.take j) →
          truncate length false ending leeway cs = kept ++ ending ∧
          kept.length ≤ L + n ∧ ¬SplitsWord cs kept.length) := by
  refine ⟨⟨truncate?_true, ?_⟩, fun n hn => ⟨?_, fun hfits => ?_, fun hfits => ?_⟩⟩
  · obtain hL | hle := Nat.lt_or_ge L cs.length
    · rw [truncate_true hlength hL, hard_eq]
    · rw [truncate_of_length_le hlength hle, if_pos (by omega)]
  · exact truncate?_false hlength fun hneg => absurd hneg (by omega)
  · obtain hL | hle := Nat.lt_or_ge L cs.length
    · obtain ⟨hrun, hend⟩ := wordRun_eq_of_fits hL hfits
      rw [truncate_false hlength hL, soft_of_run_to_end (toNat_toUInt64_of_eq hn) hrun hend]
    · exact truncate_of_length_le hlength hle
  · have hL : L < cs.length := Nat.lt_of_not_le fun hle => hfits (.inl hle)
    obtain ⟨j, hcut, hsoft⟩ := exists_softCut ending hL (toNat_toUInt64_of_eq hn) hfits
    refine ⟨⟨j, hcut⟩, fun i hcut' kept hkept => ?_⟩
    obtain rfl := hcut'.unique hcut
    subst hkept
    exact ⟨by rw [truncate_false hlength hL, hsoft], hcut.length_le, hcut.not_splitsWord⟩

/-- A word of three letters that begins one before the length is left out for a leeway of one. -/
theorem truncate_closed_form_backsOff :
    truncate 4 false ['~'] 1 ['a', 'b', ' ', 'c', 'd', 'e', ' '] = ['a', 'b', '~'] ∧
    ¬SplitsWord ['a', 'b', ' ', 'c', 'd', 'e', ' '] 2 := by
  have hword : ∀ i, 3 ≤ i → i ≤ 5 → ¬Separator ['a', 'b', ' ', 'c', 'd', 'e', ' '] i := by
    intro i hlo hhi
    obtain rfl | rfl | rfl : i = 3 ∨ i = 4 ∨ i = 5 := by omega
    · exact not_separator_of_word rfl (by decide)
    · exact not_separator_of_word rfl (by decide)
    · exact not_separator_of_word rfl (by decide)
  have hfits : ¬Fits 4 1 ['a', 'b', ' ', 'c', 'd', 'e', ' '] := by
    rintro (hle | ⟨hle, -⟩)
    · exact absurd hle (by decide)
    · exact absurd hle (by decide)
  have hgreatest : IsGreatest {i | i < 4 ∧ Separator ['a', 'b', ' ', 'c', 'd', 'e', ' '] i} 2 :=
    ⟨⟨by decide, ' ', rfl, by decide +kernel⟩,
      fun i ⟨hlt, hsep⟩ => Nat.le_of_not_lt fun hgt => hword i hgt (by omega) hsep⟩
  obtain ⟨-, hsoft⟩ :=
    truncate_closed_form 4 1 ['~'] ['a', 'b', ' ', 'c', 'd', 'e', ' '] 4 (by decide)
  obtain ⟨-, -, hcut⟩ := hsoft 1 (by decide)
  obtain ⟨htext, -, hwhole⟩ := (hcut hfits).2 2
    (.behind (fun i hlo hhi => hword i (by omega) (by omega)) hgreatest) ['a', 'b']
      (by decide +kernel)
  exact ⟨htext, hwhole⟩

end TemplateExpr.Truncate
