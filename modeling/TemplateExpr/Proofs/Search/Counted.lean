/-
Counted replacement and the replacement of all occurrences.

Replacing everything is one pass; replacing a number of occurrences searches the changed
text from its start after each of them.  The two meet when what is put in is not empty and
shares no character with the pattern: then no occurrence begins in what has been searched
already, whatever follows it, so the next search goes straight on to the next occurrence
of the pass.  That prefix is the invariant here, and it is stated for one part of the text
at a time: `Clear` is about a part and every text behind it.

Without the two conditions the ways really differ.  Replacing by nothing can bring an
occurrence about that was not there, and a replacement that contains the pattern is itself
replaced when it is counted.
-/
import TemplateExpr.Proofs.Search.Occurrence

namespace TemplateExpr.Search

variable {pat sub cs xs rest before after : List Char} {parts : List (List Char)}

/-! ### The occurrences of the pass

The pass over a text leaves a list of parts, each of them before an occurrence, and a
rest.  Both ways of replacing are functions of that list, and `refill` is the one they
agree on.
-/

/--
A text taken apart at the occurrences met from left to right: what stands before each of
them, and what is left behind the last.  Each is the first one behind the one before it,
so no two of them overlap.
-/
inductive Occurrences (pat : List Char) : List Char → List (List Char) → List Char → Prop
  | none {cs : List Char} (hnone : ¬pat <:+: cs) : Occurrences pat cs [] cs
  | next {before after rest : List Char} {parts : List (List Char)}
      (hfirst : ∀ b a, before ++ pat ++ after = b ++ pat ++ a → before.length ≤ b.length)
      (hafter : Occurrences pat after parts rest) :
      Occurrences pat (before ++ pat ++ after) (before :: parts) rest

/-- The text put together again with `sub` at the first `k` occurrences. -/
def refill (pat sub : List Char) (k : Nat) (parts : List (List Char)) (rest : List Char) :
    List Char :=
  (parts.take k).flatMap (· ++ sub) ++ (parts.drop k).flatMap (· ++ pat) ++ rest

@[simp] theorem refill_nil (k : Nat) : refill pat sub k [] rest = rest := by
  simp [refill]

@[simp] theorem refill_zero_cons : refill pat sub 0 (before :: parts) rest =
    before ++ pat ++ refill pat sub 0 parts rest := by
  simp [refill]

@[simp] theorem refill_succ_cons (k : Nat) : refill pat sub (k + 1) (before :: parts) rest =
    before ++ sub ++ refill pat sub k parts rest := by
  simp [refill]

theorem refill_of_length_le {k : Nat} (h : parts.length ≤ k) :
    refill pat sub k parts rest = refill pat sub parts.length parts rest := by
  unfold refill
  rw [List.take_of_length_le h, List.take_length, List.drop_of_length_le h, List.drop_length]

/-- Every text has its occurrences, one search after the other. -/
theorem exists_occurrences (hpat : pat ≠ []) (cs : List Char) :
    ∃ parts rest, Occurrences pat cs parts rest := by
  induction hn : cs.length using Nat.strongRecOn generalizing cs with
  | ind n ih =>
      cases hsplit : splitFirst pat cs with
      | none => exact ⟨[], cs, .none (splitFirst_eq_none_iff.mp hsplit)⟩
      | some split =>
          obtain ⟨before, after⟩ := split
          obtain ⟨rfl, hfirst⟩ := splitFirst_eq_some_iff.mp hsplit
          have hpos : 0 < pat.length := List.length_pos_iff.mpr hpat
          have hshorter : after.length < n := by
            simp only [List.length_append] at hn
            omega
          obtain ⟨parts, rest, hafter⟩ := ih after.length hshorter after rfl
          exact ⟨before :: parts, rest, .next hfirst hafter⟩

/-- The pass replaces the occurrences, whatever is put in. -/
theorem replaceAll_eq_refill (hpat : pat ≠ []) (h : Occurrences pat cs parts rest) :
    replaceAll pat sub cs = refill pat sub parts.length parts rest := by
  induction h with
  | none hnone => rw [replaceAll_of_none (splitFirst_eq_none_iff.mpr hnone), refill_nil]
  | next hfirst _ ih =>
      rw [replaceAll_of_some hpat (splitFirst_eq_some_iff.mpr ⟨rfl, hfirst⟩), ih, List.length_cons,
        refill_succ_cons]

/-! ### Parts in which no occurrence begins

A part with what was put in behind it stays clear: an occurrence would have to begin in
the part, which the pass has excluded, or in what was put in, which shares no character
with the pattern.  It is the second half that needs the replacement not to be empty.
-/

/-- No occurrence of the pattern begins in `xs`, whatever follows. -/
def Clear (pat xs : List Char) : Prop :=
  ∀ rest b a, xs ++ rest = b ++ pat ++ a → xs.length ≤ b.length

theorem Clear.split (h : Clear pat xs) {b a : List Char} (hcs : xs ++ cs = b ++ pat ++ a) :
    ∃ b', b = xs ++ b' ∧ cs = b' ++ pat ++ a := by
  have hlength := h cs b a hcs
  rw [List.append_assoc] at hcs
  obtain ⟨b', rfl, hrest⟩ | ⟨t, rfl, hrest⟩ := List.append_eq_append_iff.mp hcs
  · exact ⟨b', rfl, by rw [hrest, List.append_assoc]⟩
  · rw [List.length_append] at hlength
    obtain rfl : t = [] := List.length_eq_zero_iff.mp (by omega)
    exact ⟨[], by simp, hrest.symm⟩

/-- Behind a clear part the first occurrence is the first one of what follows. -/
theorem splitFirst_append (h : Clear pat xs) :
    splitFirst pat (xs ++ cs) =
      (splitFirst pat cs).map fun (before, after) => (xs ++ before, after) := by
  cases hsplit : splitFirst pat cs with
  | none =>
      refine splitFirst_eq_none_iff.mpr fun hinfix => splitFirst_eq_none_iff.mp hsplit ?_
      obtain ⟨b, a, hcs⟩ := hinfix
      obtain ⟨b', -, hcs⟩ := h.split hcs.symm
      exact ⟨b', a, hcs.symm⟩
  | some split =>
      obtain ⟨before, after⟩ := split
      obtain ⟨rfl, hfirst⟩ := splitFirst_eq_some_iff.mp hsplit
      refine splitFirst_eq_some_iff.mpr ⟨by simp, fun b a hcs => ?_⟩
      obtain ⟨b', rfl, hrest⟩ := h.split hcs
      have hle := hfirst b' a hrest
      simp only [List.length_append]
      omega

theorem replaceFirst_append (h : Clear pat xs) (k : Nat) (cs : List Char) :
    replaceFirst pat sub k (xs ++ cs) = xs ++ replaceFirst pat sub k cs := by
  induction k generalizing cs with
  | zero => rfl
  | succ k ih =>
      rw [replaceFirst, replaceFirst, splitFirst_append h]
      cases splitFirst pat cs with
      | none => rfl
      | some split =>
          obtain ⟨before, after⟩ := split
          show replaceFirst pat sub k (xs ++ before ++ sub ++ after) = _
          rw [← ih, List.append_assoc, List.append_assoc, List.append_assoc]

/--
What stands before a first occurrence, followed by characters foreign to the pattern, is
clear: an occurrence in it would end before them, and so come before the first one.
-/
theorem clear_of_first (hpat : pat ≠ []) (hsub : sub ≠ []) (hforeign : ∀ c ∈ sub, c ∉ pat)
    (hfirst : ∀ b a, before ++ pat ++ after = b ++ pat ++ a → before.length ≤ b.length) :
    Clear pat (before ++ sub) := by
  intro rest b a hcs
  obtain ⟨p, ps, rfl⟩ := List.exists_cons_of_ne_nil hpat
  obtain ⟨s, ss, rfl⟩ := List.exists_cons_of_ne_nil hsub
  rw [List.append_assoc, List.append_assoc] at hcs
  obtain ⟨t, rfl, ht⟩ | ⟨t, rfl, ht⟩ := List.append_eq_append_iff.mp hcs
  · -- The occurrence begins behind `before`, so it must begin behind `sub` as well.
    obtain ⟨u, rfl, -⟩ | ⟨u, hu, hpu⟩ := List.append_eq_append_iff.mp ht
    · simp only [List.length_append]
      omega
    · cases u with
      | nil =>
          rw [List.append_nil] at hu
          exact Nat.le_of_eq (by rw [hu])
      | cons c u =>
          obtain ⟨rfl, -⟩ := List.cons.inj hpu
          exact absurd List.mem_cons_self (hforeign p (by rw [hu]; simp))
  · -- It begins inside `before`, where it would be seen before the first one or meet `sub`.
    exfalso
    obtain ⟨u, rfl, -⟩ | ⟨u, hu, hsu⟩ := List.append_eq_append_iff.mp ht
    · have hle := hfirst b (u ++ (p :: ps) ++ after) (by simp)
      simp only [List.length_append, List.length_cons] at hle
      omega
    · cases u with
      | nil =>
          rw [List.append_nil] at hu
          have hle := hfirst b (p :: ps ++ after) (by simp [← hu])
          rw [← hu] at hle
          simp only [List.length_append, List.length_cons] at hle
          omega
      | cons c u =>
          obtain ⟨rfl, -⟩ := List.cons.inj hsu
          exact hforeign s List.mem_cons_self (by rw [hu]; simp)

/-! ### Counting and passing agree -/

section

variable (hpat : pat ≠ []) (hsub : sub ≠ []) (hforeign : ∀ c ∈ sub, c ∉ pat)

include hpat hsub hforeign

/-- Counting replaces the first occurrences of the pass. -/
theorem replaceFirst_eq_refill (h : Occurrences pat cs parts rest) (k : Nat) :
    replaceFirst pat sub k cs = refill pat sub k parts rest := by
  induction h generalizing k with
  | none hnone =>
      cases k with
      | zero => rw [replaceFirst, refill_nil]
      | succ k => rw [replaceFirst, splitFirst_eq_none_iff.mpr hnone, refill_nil]
  | @next before after rest parts hfirst _ ih =>
      cases k with
      | zero => rw [refill_zero_cons, ← ih 0, replaceFirst, replaceFirst]
      | succ k =>
          rw [replaceFirst, splitFirst_eq_some_iff.mpr ⟨rfl, hfirst⟩]
          show replaceFirst pat sub k (before ++ sub ++ after) = _
          rw [replaceFirst_append (clear_of_first hpat hsub hforeign hfirst), ih, refill_succ_cons]

/-- Once all of its occurrences are replaced, a pattern does not occur any more. -/
theorem not_infix_refill (h : Occurrences pat cs parts rest) :
    ¬pat <:+: refill pat sub parts.length parts rest := by
  induction h with
  | none hnone => rwa [refill_nil]
  | next hfirst _ ih =>
      rw [List.length_cons, refill_succ_cons]
      intro hinfix
      obtain ⟨b, a, hcs⟩ := hinfix
      obtain ⟨b', -, hcs⟩ := (clear_of_first hpat hsub hforeign hfirst).split hcs.symm
      exact ih ⟨b', a, hcs.symm⟩

end

theorem replace_zero (hpat : pat ≠ []) (sub cs : List Char) :
    replace pat sub 0 cs = replaceAll pat sub cs := by
  unfold replace
  rw [List.isEmpty_eq_false_iff.mpr hpat]
  rfl

theorem replace_of_pos (hpat : pat ≠ []) (sub cs : List Char) {count : Int64} (hcount : 1 ≤ count) :
    replace pat sub count cs = replaceFirst pat sub count.toInt.toNat cs := by
  have hpos : (1 : Int) ≤ count.toInt := Int64.le_iff_toInt_le.mp hcount
  have hneg : ¬count < 0 := fun h => absurd (Int64.lt_iff_toInt_lt.mp h) (by simp; omega)
  have hzero : ¬count = 0 := by
    rintro rfl
    exact absurd hpos (by decide)
  unfold replace
  rw [List.isEmpty_eq_false_iff.mpr hpat, Bool.false_or, if_neg (by simpa using hneg),
    if_neg (by simpa using hzero)]
  rfl

/-- The empty pattern is never replaced. -/
@[simp] theorem replace_nil (sub : List Char) (count : Int64) : replace [] sub count = id := by
  funext cs
  simp [replace]

/-- Where the pattern does not occur, nothing is replaced. -/
theorem replace_of_not_infix (h : ¬pat <:+: cs) (sub : List Char) (count : Int64) :
    replace pat sub count cs = cs := by
  have hnone := splitFirst_eq_none_iff.mpr h
  have hfirst : ∀ n, replaceFirst pat sub n cs = cs := by
    intro n
    cases n with
    | zero => rfl
    | succ n => rw [replaceFirst, hnone]
  unfold replace
  simp [replaceAll_of_none hnone, hfirst]

/--
**Counted replacement replaces the first occurrences of the pass**, if what is put in is not
empty and shares no character with the pattern.  As soon as the count reaches the number
of occurrences it is the same as replacing all, and the pattern is gone from the result.
-/
theorem counted_replacement_agrees (hpat : pat ≠ []) (hsub : sub ≠ [])
    (hforeign : ∀ c ∈ sub, c ∉ pat) (cs : List Char) :
    (∃ parts rest, Occurrences pat cs parts rest) ∧
    ∀ parts rest, Occurrences pat cs parts rest →
      (∀ new, replace pat new 0 cs = refill pat new parts.length parts rest) ∧
      ∀ count : Int64, 1 ≤ count →
        replace pat sub count cs = refill pat sub count.toInt.toNat parts rest ∧
        (parts.length ≤ count.toInt →
          replace pat sub count cs = replace pat sub 0 cs ∧
            ¬pat <:+: replace pat sub count cs) := by
  refine ⟨exists_occurrences hpat cs, fun parts rest h => ⟨fun new => ?_, fun count hcount => ?_⟩⟩
  · rw [replace_zero hpat, replaceAll_eq_refill hpat h]
  · have hfirst : replace pat sub count cs = refill pat sub count.toInt.toNat parts rest := by
      rw [replace_of_pos hpat sub cs hcount, replaceFirst_eq_refill hpat hsub hforeign h]
    refine ⟨hfirst, fun hall => ?_⟩
    have hrefill : replace pat sub count cs = refill pat sub parts.length parts rest := by
      rw [hfirst, refill_of_length_le (by omega)]
    refine ⟨?_, ?_⟩
    · rw [hrefill, replace_zero hpat, replaceAll_eq_refill hpat h]
    · rw [hrefill]
      exact not_infix_refill hpat hsub hforeign h

/-- A pattern that overlaps itself occurs twice in five letters, and the fifth letter is left. -/
theorem counted_replacement_agrees_overlapping :
    replace ['a', 'a'] ['x'] 1 ['a', 'a', 'a', 'a', 'a', 'b'] = ['x', 'a', 'a', 'a', 'b'] ∧
    replace ['a', 'a'] ['x'] 2 ['a', 'a', 'a', 'a', 'a', 'b'] = ['x', 'x', 'a', 'b'] ∧
    ¬['a', 'a'] <:+: replace ['a', 'a'] ['x'] 2 ['a', 'a', 'a', 'a', 'a', 'b'] := by
  have hfirst : ∀ after b a, [] ++ ['a', 'a'] ++ after = b ++ ['a', 'a'] ++ a →
      ([] : List Char).length ≤ b.length := fun _ _ _ _ => Nat.zero_le _
  have hoccurrences : Occurrences ['a', 'a'] ['a', 'a', 'a', 'a', 'a', 'b'] [[], []] ['a', 'b'] :=
    .next (hfirst _) (.next (hfirst _) (.none (splitFirst_eq_none_iff.mp (by decide))))
  have hpat : ['a', 'a'] ≠ [] := List.cons_ne_nil _ _
  have hsub : ['x'] ≠ [] := List.cons_ne_nil _ _
  have hforeign : ∀ c ∈ ['x'], c ∉ ['a', 'a'] := by
    intro c hc
    obtain rfl := List.mem_singleton.mp hc
    decide
  obtain ⟨-, hcount⟩ := (counted_replacement_agrees hpat hsub hforeign
    ['a', 'a', 'a', 'a', 'a', 'b']).2 _ _ hoccurrences
  obtain ⟨htwo, hall⟩ := hcount 2 (by decide)
  exact ⟨(hcount 1 (by decide)).1, htwo, (hall (by decide)).2⟩

end TemplateExpr.Search
