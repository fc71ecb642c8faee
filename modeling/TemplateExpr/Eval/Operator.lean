/-
Evaluating binary operators.

The left operand comes first, and the result is a temporary value: the left operand's
own cell when that was a scratch result, and a fresh one otherwise.
-/
import TemplateExpr.Arithmetic
import TemplateExpr.Eval.Filter

namespace TemplateExpr

/-- A temporary value with a new payload: the left operand used again if it is a scratch result. -/
def Value.scratch (left : Value) (data : Payload Value) : Value :=
  if left.temporary then left.setData data else (Value.of data).asTemporary

/--
Joins the texts of two values.  A temporary text on the left is joined onto in place,
with its marks; texts of different widths give the empty value.
-/
def Value.concat (w : CharWidth) (left right : Value) : Value :=
  let target :=
    if left.temporary && left.asText?.isSome then left
    else left.scratch (.text (left.toOwnText w))
  match target.appendText (right.toOwnText w) with
  | .ok v => v
  | .error _ => .empty

/-- Whether an operand counts as true. -/
def evalTruth (sub : Evaluator) (e : Expr) : EvalM Bool := do pure (← sub.eval e).truthy

/-- The value of a binary operator.  The right operand is evaluated only where it is needed. -/
def evalBinary (env : Env) (sub : Evaluator) (op : BinaryOp) (l r : Expr) : EvalM Value := do
  let left ← sub.eval l
  match op with
  | .and => do
    let b ← (if left.truthy then evalTruth sub r else pure false)
    pure (left.scratch (.bool b))
  | .or => do
    let b ← (if left.truthy then pure true else evalTruth sub r)
    pure (left.scratch (.bool b))
  | .mem => do
    let b ← Tester.mem.apply sub (.named "seq" r) left
    pure (left.scratch (.bool b))
  | .concat => do
    let right ← sub.eval r
    pure (left.concat env.width right)
  | op => do
    let right ← sub.eval r
    let result ← EvalM.create (op.apply left right)
    pure (left.scratch result.data)

end TemplateExpr
