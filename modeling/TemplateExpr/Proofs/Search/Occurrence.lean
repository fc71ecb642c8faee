/-
Where a pattern occurs.

The search for the first occurrence finds the split of the text with the shortest part
before the pattern, and finds none exactly if the pattern is no infix of the text.  The
pass that replaces every occurrence is that search again and again, each time behind the
occurrence found before.
-/
import TemplateExpr.Text.Search

namespace TemplateExpr.Search

variable {pat sub cs before after : List Char}

/-! ### The first occurrence -/

theorem occurs_iff : occurs pat cs = true ↔ pat <:+: cs := by
  induction cs with
  | nil => rw [occurs, List.isEmpty_iff, List.infix_nil]
  | cons c cs ih =>
      rw [occurs, Bool.or_eq_true, ih, List.isPrefixOf_iff_prefix, List.infix_cons_iff]

theorem splitFirst_eq_none_iff : splitFirst pat cs = none ↔ ¬pat <:+: cs := by
  rw [← Option.not_isSome_iff_eq_none, splitFirst_isSome, occurs_iff]

theorem splitFirst_of_isPrefix {c : Char} (h : pat.isPrefixOf (c :: cs) = true) :
    splitFirst pat (c :: cs) = some ([], (c :: cs).drop pat.length) := by
  rw [splitFirst, if_pos h]

theorem splitFirst_of_not_isPrefix {c : Char} (h : pat.isPrefixOf (c :: cs) = false) :
    splitFirst pat (c :: cs) = (splitFirst pat cs).map fun (before, after) =>
      (c :: before, after) := by
  rw [splitFirst, if_neg (ne_true_of_eq_false h)]

/-- No split around the pattern leaves less before it than the first one. -/
theorem splitFirst_le (h : splitFirst pat cs = some (before, after)) {b a : List Char}
    (hcs : cs = b ++ pat ++ a) : before.length ≤ b.length := by
  induction cs generalizing before after b with
  | nil =>
      have hnil : before ++ pat ++ after = [] := (eq_of_splitFirst h).symm
      rw [List.append_assoc, List.append_eq_nil_iff] at hnil
      rw [hnil.1]
      exact Nat.zero_le _
  | cons c cs ih =>
      cases hp : pat.isPrefixOf (c :: cs) with
      | true =>
          rw [splitFirst_of_isPrefix hp] at h
          obtain ⟨rfl, -⟩ := Prod.mk.inj (Option.some.inj h)
          exact Nat.zero_le _
      | false =>
          rw [splitFirst_of_not_isPrefix hp] at h
          obtain ⟨⟨before', after'⟩, hsplit, heq⟩ := Option.map_eq_some_iff.mp h
          obtain ⟨rfl, -⟩ := Prod.mk.inj heq
          cases b with
          | nil =>
              have hfront : pat <+: c :: cs := ⟨a, hcs.symm⟩
              rw [← List.isPrefixOf_iff_prefix, hp] at hfront
              exact absurd hfront Bool.false_ne_true
          | cons c' b =>
              obtain ⟨-, hrest⟩ := List.cons.inj hcs
              exact Nat.succ_le_succ (ih hsplit hrest)

/-- The search finds the split with the shortest part before the pattern. -/
theorem splitFirst_eq_some_iff : splitFirst pat cs = some (before, after) ↔
    cs = before ++ pat ++ after ∧ ∀ b a, cs = b ++ pat ++ a → before.length ≤ b.length := by
  constructor
  · intro h
    exact ⟨eq_of_splitFirst h, fun b a hcs => splitFirst_le h hcs⟩
  · intro h
    obtain ⟨hcs, hshortest⟩ := h
    have hinfix : pat <:+: cs := ⟨before, after, hcs.symm⟩
    obtain ⟨⟨b, a⟩, hsplit⟩ := Option.isSome_iff_exists.mp
      ((splitFirst_isSome pat cs).trans (occurs_iff.mpr hinfix))
    have heq := eq_of_splitFirst hsplit
    have hlength : before.length = b.length :=
      Nat.le_antisymm (hshortest b a heq) (splitFirst_le hsplit hcs)
    rw [hcs, List.append_assoc, List.append_assoc] at heq
    obtain ⟨rfl, hrest⟩ := List.append_inj heq hlength
    rw [hsplit, List.append_cancel_left hrest]

/-! ### The pass over all occurrences

The pass skips the rest of an occurrence character by character, with a counter.
Dropping that many characters at once is the same, and then one step of the pass is one
search.
-/

theorem replaceFrom_eq_drop (skip : Nat) (cs : List Char) :
    replaceFrom pat sub skip cs = replaceAll pat sub (cs.drop skip) := by
  induction cs generalizing skip with
  | nil => cases skip <;> rfl
  | cons c cs ih =>
      cases skip with
      | zero => rfl
      | succ skip =>
          rw [replaceFrom, ih, List.drop_succ_cons]

theorem replaceAll_of_none (h : splitFirst pat cs = none) : replaceAll pat sub cs = cs := by
  induction cs with
  | nil => rfl
  | cons c cs ih =>
      cases hp : pat.isPrefixOf (c :: cs) with
      | true => exact absurd (splitFirst_of_isPrefix hp) (by rw [h]; exact nofun)
      | false =>
          rw [splitFirst_of_not_isPrefix hp, Option.map_eq_none_iff] at h
          show replaceFrom pat sub 0 (c :: cs) = _
          rw [replaceFrom, if_neg (ne_true_of_eq_false hp)]
          exact congrArg (c :: ·) (ih h)

/-- The pass goes on behind the first occurrence. -/
theorem replaceAll_of_some (hpat : pat ≠ []) (h : splitFirst pat cs = some (before, after)) :
    replaceAll pat sub cs = before ++ sub ++ replaceAll pat sub after := by
  induction cs generalizing before with
  | nil =>
      have hnil : before ++ pat ++ after = [] := (eq_of_splitFirst h).symm
      rw [List.append_assoc, List.append_eq_nil_iff, List.append_eq_nil_iff] at hnil
      exact absurd hnil.2.1 hpat
  | cons c cs ih =>
      cases hp : pat.isPrefixOf (c :: cs) with
      | true =>
          rw [splitFirst_of_isPrefix hp] at h
          obtain ⟨rfl, rfl⟩ := Prod.mk.inj (Option.some.inj h)
          obtain ⟨p, ps, rfl⟩ := List.exists_cons_of_ne_nil hpat
          show replaceFrom (p :: ps) sub 0 (c :: cs) = _
          rw [replaceFrom, if_pos hp, replaceFrom_eq_drop]
          rfl
      | false =>
          rw [splitFirst_of_not_isPrefix hp] at h
          obtain ⟨⟨before', after'⟩, hsplit, heq⟩ := Option.map_eq_some_iff.mp h
          obtain ⟨rfl, rfl⟩ := Prod.mk.inj heq
          show replaceFrom pat sub 0 (c :: cs) = _
          rw [replaceFrom, if_neg (ne_true_of_eq_false hp)]
          exact congrArg (c :: ·) (ih hsplit)

end TemplateExpr.Search
