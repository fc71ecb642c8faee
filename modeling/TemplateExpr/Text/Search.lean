/-
Finding and replacing a pattern in a list of code points.

Three searches meet here: whether a pattern occurs at all, where it occurs first,
and the left-to-right pass that replaces every occurrence.  All of them look for the
leftmost position whose remaining text starts with the pattern, and occurrences that
overlap a replaced one are not replaced themselves.
-/
namespace TemplateExpr.Search

/-- Whether the pattern stands somewhere in the text.  The empty pattern always does. -/
def occurs (pat : List Char) : List Char → Bool
  | [] => pat.isEmpty
  | c :: cs => pat.isPrefixOf (c :: cs) || occurs pat cs

/-- What stands before and after the first occurrence of the pattern. -/
def splitFirst (pat : List Char) : List Char → Option (List Char × List Char)
  | [] => if pat.isEmpty then some ([], []) else none
  | c :: cs =>
    if pat.isPrefixOf (c :: cs) then some ([], (c :: cs).drop pat.length)
    else (splitFirst pat cs).map fun (before, after) => (c :: before, after)

/--
Replaces every occurrence met while going left to right.  `skip` counts the
characters of the occurrence just replaced that are still to be passed over.
-/
def replaceFrom (pat sub : List Char) : (skip : Nat) → List Char → List Char
  | _, [] => []
  | skip + 1, _ :: cs => replaceFrom pat sub skip cs
  | 0, c :: cs =>
    if pat.isPrefixOf (c :: cs) then sub ++ replaceFrom pat sub (pat.length - 1) cs
    else c :: replaceFrom pat sub 0 cs

/-- Replaces every occurrence in one pass; what is put in is not searched again. -/
def replaceAll (pat sub cs : List Char) : List Char := replaceFrom pat sub 0 cs

/-- Replaces the first occurrence, then the first one of the changed text, up to `n` times. -/
def replaceFirst (pat sub : List Char) : (n : Nat) → List Char → List Char
  | 0, cs => cs
  | n + 1, cs =>
    match splitFirst pat cs with
    | none => cs
    | some (before, after) => replaceFirst pat sub n (before ++ sub ++ after)

/--
Counted replacement.  A count of zero replaces every occurrence in one pass, a
positive one the first occurrence that many times, a negative one nothing; the empty
pattern is never replaced.
-/
def replace (pat sub : List Char) (count : Int64) (cs : List Char) : List Char :=
  if pat.isEmpty || count < 0 then cs
  else if count == 0 then replaceAll pat sub cs
  else replaceFirst pat sub count.toNatClampNeg cs

/-! ### The two positional searches find the same thing -/

theorem splitFirst_isSome (pat cs : List Char) : (splitFirst pat cs).isSome = occurs pat cs := by
  induction cs with
  | nil => cases pat <;> simp [splitFirst, occurs]
  | cons c cs ih =>
    by_cases h : pat.isPrefixOf (c :: cs) <;> simp [splitFirst, occurs, h, ih]

/-- A split puts the text back together around the pattern. -/
theorem eq_of_splitFirst {pat cs before after : List Char}
    (h : splitFirst pat cs = some (before, after)) : cs = before ++ pat ++ after := by
  induction cs generalizing before after with
  | nil =>
    cases pat <;> simp [splitFirst] at h
    simp [h.1, h.2]
  | cons c cs ih =>
    by_cases hp : pat.isPrefixOf (c :: cs)
    · simp only [splitFirst, hp, if_true, Option.some.injEq, Prod.mk.injEq] at h
      obtain ⟨t, ht⟩ := List.isPrefixOf_iff_prefix.1 hp
      rw [← h.1, ← h.2, ← ht]
      simp
    · simp only [splitFirst, hp, if_false, Option.map_eq_some_iff, Bool.false_eq_true] at h
      obtain ⟨⟨b, a⟩, hs, heq⟩ := h
      simp only [Prod.mk.injEq] at heq
      rw [ih hs, ← heq.1, ← heq.2]
      simp

end TemplateExpr.Search
