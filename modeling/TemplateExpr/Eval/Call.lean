/-
Calling functions.

A call evaluates its callee once.  A built-in takes the arguments as they are; any
other function binds them, evaluates them in the caller's scope and runs in a scope of
its own that is closed when it ends.  Asked for its value, a function that writes is
given a buffer; asked for its output, it writes straight to the caller's.
-/
import TemplateExpr.Eval.Basic

namespace TemplateExpr

/-- The member that makes a map callable. -/
def callMember : String := "operator()"

/-- The function a value stands for: itself, or the one a map holds for being called. -/
def Library.resolve (l : Library) (callee : Value) : Option FunctionDef :=
  match callee.data with
  | .function id => l.find? id
  | .map m => ((m.get? callMember).bind Value.asFunction?).bind l.find?
  | _ => none

/--
Binds the arguments of a function, evaluates them in the caller's scope and opens the
function's own scope with them.  Says whether the binding succeeded; if it did not,
the missing parameters are noted and no scope is opened.
-/
def enter (sub : Evaluator) (formals : List Formal) (args : CallArgs Expr) : EvalM Bool := do
  let b := bind formals args
  if b.succeeded then
    let bound ← evalEntries (Bound.value sub) b.args.entries
    let extraPositional ← b.extraPositional.mapM sub.eval
    let extraKeyword ← evalEntries sub.eval b.extraKeyword.entries
    EvalM.pushScope
    bound.forM fun e => EvalM.define e.1 e.2
    let rest ← EvalM.create (.list (.owned extraPositional))
    let named ← EvalM.create (.map (.owned (.ofList extraKeyword)))
    EvalM.define "args" rest
    EvalM.define "kwargs" named
    pure true
  else
    EvalM.note ("missing:" ++ ",".intercalate b.missing)
    pure false

/-- Renders expressions one after the other to the end of a buffer. -/
def renderAll (sub : Evaluator) (es : List Expr) (buffer : Text) : EvalM Text :=
  es.foldlM (fun t e => sub.render e t) buffer

/-- Calls a function that writes, with a buffer to write to. -/
def emit (sub : Evaluator) (formals : List Formal) (writes : List Expr) (args : CallArgs Expr)
    (buffer : Text) : EvalM Text := do
  if ← enter sub formals args then
    let t ← renderAll sub writes buffer
    EvalM.popScope
    pure t
  else pure buffer

/-- Calls a function that computes. -/
def compute (sub : Evaluator) (formals : List Formal) (body : Expr) (args : CallArgs Expr) :
    EvalM Value := do
  if ← enter sub formals args then
    let v ← sub.eval body
    EvalM.popScope
    pure v
  else pure .empty

/-- The value of a call; what a function writes is collected in a text of the target width. -/
def FunctionDef.call (env : Env) (sub : Evaluator) (f : FunctionDef) (args : CallArgs Expr) :
    EvalM Value := do
  EvalM.note f.tag
  match f.behaviour with
  | .answer v => pure v
  | .compute formals body => compute sub formals body args
  | .emit formals writes => do
    let t ← emit sub formals writes args (.empty env.width)
    EvalM.create (.text t)

/-- Calls a function and writes what it produces to a buffer. -/
def FunctionDef.stream (sub : Evaluator) (f : FunctionDef) (args : CallArgs Expr) (buffer : Text) :
    EvalM Text := do
  EvalM.note f.tag
  match f.behaviour with
  | .answer v => pure (buffer.write v)
  | .compute formals body => do
    let v ← compute sub formals body args
    pure (buffer.write v)
  | .emit formals writes => emit sub formals writes args buffer

/-- The parameters of `range`. -/
def rangeFormals : List Formal := [.optional "start", .required "stop", .optional "step"]

/-- How many steps lead from `start` toward `stop`, cut to a whole number and held to a word. -/
def rangeCount (start stop step : Int64) : Nat :=
  min (Nat.pow 2 64 - 1) ((stop.toInt - start.toInt).tdiv step.toInt).toNat

/-- The step of a range, which is one unless the call gives another. -/
def rangeStep (sub : Evaluator) (b : Binding Expr) : EvalM Int64 :=
  match Dict.get? "step" b.args with
  | some bound => do pure ((← bound.value sub).toInt 0)
  | none => pure 1

/-- `range([start,] stop[, step])`: a progression that is computed as it is read. -/
def evalRange (sub : Evaluator) (args : CallArgs Expr) : EvalM Value := do
  let b := bind rangeFormals args
  if b.succeeded then
    let start ← b.value sub "start"
    let stop ← b.value sub "stop"
    let step ← rangeStep sub b
    if step == 0 then pure .empty
    else
      let first := start.toInt 0
      EvalM.create (.list (.progression (rangeCount first (stop.toInt 0) step) first step))
  else pure .empty

/-- The position of a running index among `count` choices. -/
def cyclePosition (index : Int64) (count : Nat) : Nat := (index.toInt % count).toNat

/-- `loop.cycle(a, b, …)`: only the argument at the loop's index, counted around, is evaluated. -/
def evalCycle (sub : Evaluator) (args : CallArgs Expr) : EvalM Value := do
  match (← EvalM.lookup "loop").bind Value.asMap? with
  | none => pure .empty
  | some loop =>
    let index := ((loop.get? "index0").getD .empty).toInt 0
    match args.positional[cyclePosition index args.positional.length]? with
    | some choice => sub.eval choice
    | none => pure .empty

/-- Calls what a value stands for, for its value. -/
def dispatch (env : Env) (sub : Evaluator) (callee : Value) (args : CallArgs Expr) : EvalM Value :=
  match callee.asBuiltin? with
  | some .range => evalRange sub args
  | some .cycle => evalCycle sub args
  | none =>
    match env.library.resolve callee with
    | some f => if f.origin.callable then f.call env sub args else pure .empty
    | none => pure .empty

/-- The value of a call. -/
def evalCall (env : Env) (sub : Evaluator) (callee : Expr) (args : CallArgs Expr) :
    EvalM Value := do
  dispatch env sub (← sub.eval callee) args

/-- Writes what a call produces; a function is called here whatever its origin. -/
def renderCall (env : Env) (sub : Evaluator) (callee : Expr) (args : CallArgs Expr)
    (buffer : Text) : EvalM Text := do
  let f ← sub.eval callee
  match env.library.resolve f with
  | some d => d.stream sub args buffer
  | none => do
    let v ← dispatch env sub f args
    pure (buffer.write v)

end TemplateExpr
