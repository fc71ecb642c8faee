/-
Evaluating and rendering expressions.

Evaluating an expression gives its value; rendering writes its text to a buffer in
the buffer's width.  Rendering is evaluating and writing the value, except that calls
and unguarded expressions stream what they produce.

Each level of an expression is a plain function of an evaluator for what lies below
it.  The evaluator with a depth of zero has run out, and each further level is built on
the one before.  Depth is used by nesting and by calls, never by the length of a list,
and enough depth for an answer is enough for good.
-/
import TemplateExpr.Eval.Call
import TemplateExpr.Eval.Operator
import TemplateExpr.Index

namespace TemplateExpr

/-- Reads one index further; what is read out of a value that must be kept hangs off it. -/
def evalIndex (sub : Evaluator) (cur : Value) (index : Expr) : EvalM Value := do
  let key ← sub.eval index
  let v ← cur.subscript key
  pure (if cur.extendsLifetime then v.setParent cur else v)

/-- Applies the filters of a chain, the first one first. -/
def evalChain (env : Env) (sub : Evaluator) (chain : List (FilterLink Expr)) (base : Value) :
    EvalM Value :=
  chain.foldlM (fun v link => link.filter.apply env sub link.args v) base

/-- The body's value, unless the condition fails; the body is evaluated before the condition. -/
def evalGuarded (sub : Evaluator) (body : Expr) (guard : Guard Expr) : EvalM Value := do
  let v ← sub.eval body
  let test ← sub.eval guard.test
  if test.truthy then pure v
  else
    match guard.otherwise with
    | some e => sub.eval e
    | none => pure .empty

/-- Evaluates an expression with an evaluator for what lies below it. -/
def evalStep (env : Env) (sub : Evaluator) : Expr → EvalM Value
  | .const v => pure v
  | .var name => do pure ((← EvalM.lookup name).getD .empty)
  | .subscript base indices => do
    indices.foldlM (evalIndex sub) (← sub.eval base)
  | .filtered base chain => do
    let v ← evalChain env sub chain (← sub.eval base)
    pure v.asTemporary
  | .unary op operand => do pure (Value.of (op.apply (← sub.eval operand))).asTemporary
  | .binary op l r => evalBinary env sub op l r
  | .tuple items => do EvalM.create (.list (.owned (← items.mapM sub.eval)))
  | .dict entries => do EvalM.create (.map (.owned (Dict.ofList (← evalEntries sub.eval entries))))
  | .test subject tester args => do
    let passed ← tester.apply sub args (← sub.eval subject)
    pure (Value.ofBool passed).asTemporary
  | .call callee args => evalCall env sub callee args
  | .full none _ => pure .empty
  | .full (some body) none => sub.eval body
  | .full (some body) (some guard) => evalGuarded sub body guard

/-- Renders an expression with an evaluator for what lies below it. -/
def renderStep (env : Env) (sub : Evaluator) (e : Expr) (buffer : Text) : EvalM Text :=
  match e with
  | .call callee args => renderCall env sub callee args buffer
  | .full none none => pure buffer
  | .full (some body) none => sub.render body buffer
  | e => do pure (buffer.write (← evalStep env sub e))

/-! ### All levels -/

mutual

/-- Evaluates an expression down to a depth. -/
def evalTo (env : Env) : (depth : Nat) → Expr → EvalM Value
  | 0, _ => EvalM.outOfDepth
  | depth + 1, e => evalStep env ⟨evalTo env depth, renderTo env depth⟩ e

/-- Renders an expression down to a depth. -/
def renderTo (env : Env) : (depth : Nat) → Expr → Text → EvalM Text
  | 0, _, _ => EvalM.outOfDepth
  | depth + 1, e, buffer => renderStep env ⟨evalTo env depth, renderTo env depth⟩ e buffer

end

end TemplateExpr
