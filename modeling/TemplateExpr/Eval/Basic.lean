/-
Evaluators and the values of arguments.

An expression is evaluated one level at a time, with an evaluator for what lies below
it.  Whatever takes arguments binds them first and asks the evaluator for the value of
a parameter when it needs it.
-/
import TemplateExpr.Context
import TemplateExpr.Function
import TemplateExpr.Value.Written

namespace TemplateExpr

/-- What stays fixed during an evaluation. -/
structure Env where
  /-- The width of the texts made of values that are not texts. -/
  width : CharWidth
  library : Library

/-- An evaluator for the expressions one level below. -/
structure Evaluator where
  eval : Expr → EvalM Value
  render : Expr → Text → EvalM Text

/-- Writes a value at the end of a buffer, in the buffer's width. -/
def Text.write (buffer : Text) (v : Value) : Text :=
  match buffer.append (v.toText buffer.width) with
  | .ok t => t
  | .error _ => buffer

/-! ### Arguments -/

/-- The value of a bound parameter. -/
def Bound.value (sub : Evaluator) : Bound Expr → EvalM Value
  | .given e => sub.eval e
  | .fallback v => pure v

/-- The value of a parameter by name; an unbound one reads as empty. -/
def Binding.value (sub : Evaluator) (b : Binding Expr) (name : String) : EvalM Value :=
  match Dict.get? name b.args with
  | some bound => bound.value sub
  | none => pure .empty

/-- Evaluates the values of entries in turn. -/
def evalEntries {ε : Type} (f : ε → EvalM Value) (entries : List (String × ε)) :
    EvalM (List (String × Value)) :=
  entries.mapM fun e => do pure (e.1, ← f e.2)

end TemplateExpr
