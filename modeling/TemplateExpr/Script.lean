/-
Driving an evaluation step by step.

A host builds a context out of data and globals, and then takes steps in it: it
evaluates and renders expressions, defines names, opens and closes scopes and looks
names up.  Every step sees the context the steps before it left.
-/
import TemplateExpr.Eval.Expr
import TemplateExpr.Json.Seed

namespace TemplateExpr

/-- One step of a host. -/
inductive Step where
  | eval (e : Expr)
  /-- Renders into an empty buffer of a width, or of the renderer's. -/
  | render (e : Expr) (width : Option CharWidth)
  /-- Evaluates an expression and gives its value a name. -/
  | define (name : String) (e : Expr)
  | push
  | pop
  | find (name : String)

/-- What a step answers. -/
inductive Outcome where
  | value (v : Value)
  | text (t : Text)
  | done
  | absent

/-- Takes a step. -/
def Step.run (env : Env) (depth : Nat) : Step → EvalM Outcome
  | .eval e => do pure (.value (← evalTo env depth e))
  | .render e width => do
    pure (.text (← renderTo env depth e (.empty (width.getD env.width))))
  | .define name e => do
    let v ← evalTo env depth e
    EvalM.define name v
    pure (.value v)
  | .push => do
    EvalM.pushScope
    pure .done
  | .pop => do
    EvalM.popScope
    pure .done
  | .find name => do
    match ← EvalM.lookup name with
    | some v => pure (.value v)
    | none => pure .absent

/-- The globals every template finds. -/
def standardGlobals : List (String × Value) := [("range", .of (.builtin .range))]

/--
The context a host starts from: the members of a document, which take slots of the
pool, then globals that may replace them.
-/
def Context.seeded (data : Option Json) (globals : List (String × Value)) : Context :=
  let (scope, pool) := (match data with
    | some j => Json.seedScope j
    | none => pure .nil).run .empty
  { Context.ofGlobals (Dict.insertAll globals scope) with pool }

end TemplateExpr
