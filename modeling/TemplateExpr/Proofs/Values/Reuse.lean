/-
Using a value again.

An operator may write its result to the cell of its left operand.  What is in the cell
afterwards does not tell whether it did: the payload and the marks are those of a fresh
scratch result, but for the parent of a text that more text was joined onto in place.
-/
import TemplateExpr.Eval.Expr

namespace TemplateExpr.Value

theorem scratch_eq (left : Value) (data : Payload Value) :
    left.scratch data = (of data).asTemporary := by
  obtain ⟨old, temporary, parent⟩ := left
  cases temporary <;> rfl

/-- **A scratch result used again has exactly the payload a fresh cell would have.** -/
theorem data_scratch (left : Value) (data : Payload Value) : (left.scratch data).data = data := by
  rw [scratch_eq]
  rfl

/-- The payload of two texts joined, where they can be. -/
def joined (s t : Text) : Payload Value := ((s.append t).toOption.map Payload.text).getD .empty

/-- A joined text is a scratch result; joined onto in place, it hangs off what the left text did. -/
theorem concat_eq (w : CharWidth) (left right : Value) :
    left.concat w right =
      match (left.toOwnText w).append (right.toOwnText w) with
      | .ok t =>
          ⟨.text t, true, if left.temporary && left.asText?.isSome then left.parent else none⟩
      | .error _ => .empty := by
  -- Whichever cell is written to, it holds the text of the left operand by then.
  have htarget : (if left.temporary && left.asText?.isSome then left
      else left.scratch (.text (left.toOwnText w)))
      = ⟨.text (left.toOwnText w), true,
          if left.temporary && left.asText?.isSome then left.parent else none⟩ := by
    by_cases h : (left.temporary && left.asText?.isSome) = true
    · rw [if_pos h, if_pos h]
      obtain ⟨data, temporary, parent⟩ := left
      cases data with
      | text t =>
          obtain rfl : temporary = true := ((Bool.and_eq_true _ _).mp h).1
          rfl
      | _ => exact absurd h (by simp [asText?])
    · rw [if_neg h, if_neg h, scratch_eq]
      rfl
  unfold concat appendText
  dsimp only
  rw [htarget]
  dsimp only
  cases (left.toOwnText w).append (right.toOwnText w) <;> rfl

/-- **A text joined onto in place is the text a fresh cell would get.** -/
theorem data_concat (w : CharWidth) (left right : Value) :
    (left.concat w right).data = joined (left.toOwnText w) (right.toOwnText w) := by
  rw [concat_eq]
  unfold joined
  cases (left.toOwnText w).append (right.toOwnText w) <;> rfl

end TemplateExpr.Value
