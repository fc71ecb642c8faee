/-
The values a renderer writes.

A rendering is a sequence of values written to the caller's buffer: one for most
expressions, any number for a function that writes, none for a call that fails to bind.
`writtenTo` collects these values instead of writing them, level by level as rendering
does, and no buffer occurs in it.  Rendering into any buffer is writing these values to
it one after the other, each in the buffer's width, so what is added, the calls, the
scopes and the pool are the same for every buffer.
-/
import TemplateExpr.Proofs.Render.Append

namespace TemplateExpr

/-! ### Collecting what is written

The functions here follow those that render, with a list of values in place of the
buffer.  They are recursive in the same way, so that the two can be compared one level
at a time.
-/

section

variable (write : Expr → EvalM (List Value))

/-- What expressions write one after the other. -/
def writtenByAll : List Expr → EvalM (List Value)
  | [] => pure []
  | e :: es => do pure ((← write e) ++ (← writtenByAll es))

/-- What a call of a function that writes adds to its caller's buffer. -/
def writtenByBody (sub : Evaluator) (formals : List Formal) (writes : List Expr)
    (args : CallArgs Expr) : EvalM (List Value) := do
  if ← enter sub formals args then
    let vs ← writtenByAll write writes
    EvalM.popScope
    pure vs
  else pure []

/-- What a function writes; one that does not write itself has its value written. -/
def writtenByFunction (sub : Evaluator) (f : FunctionDef) (args : CallArgs Expr) :
    EvalM (List Value) := do
  EvalM.note f.tag
  match f.behaviour with
  | .answer v => pure [v]
  | .compute formals body => do pure [← compute sub formals body args]
  | .emit formals writes => writtenByBody write sub formals writes args

/-- What a call writes. -/
def writtenByCall (env : Env) (sub : Evaluator) (callee : Expr) (args : CallArgs Expr) :
    EvalM (List Value) := do
  let f ← sub.eval callee
  match env.library.resolve f with
  | some d => writtenByFunction write sub d args
  | none => do pure [← dispatch env sub f args]

/-- What an expression writes, given what the expressions below it write. -/
def writtenStep (env : Env) (sub : Evaluator) (e : Expr) : EvalM (List Value) :=
  match e with
  | .call callee args => writtenByCall write env sub callee args
  | .full none none => pure []
  | .full (some body) none => write body
  | e => do pure [← evalStep env sub e]

end

/-- The values an expression writes when it is rendered down to a depth. -/
def writtenTo (env : Env) : (depth : Nat) → Expr → EvalM (List Value)
  | 0, _ => EvalM.outOfDepth
  | depth + 1, e => writtenStep (writtenTo env depth) env ⟨evalTo env depth, renderTo env depth⟩ e

/-! ### Rendering writes what was collected -/

section

variable {sub : Evaluator} {write : Expr → EvalM (List Value)}

theorem renderAll_writes (h : ∀ e, Writes (sub.render e) (write e)) (es : List Expr) :
    Writes (renderAll sub es) (writtenByAll write es) := by
  induction es with
  | nil => exact Writes.nothing
  | cons e es ih => exact Writes.bind (h e) ih

theorem emit_writes (h : ∀ e, Writes (sub.render e) (write e)) (formals : List Formal)
    (writes : List Expr) (args : CallArgs Expr) :
    Writes (emit sub formals writes args) (writtenByBody write sub formals writes args) := by
  refine Writes.after (enter sub formals args) fun entered => ?_
  cases entered with
  | false => exact Writes.nothing
  | true => exact Writes.finish (renderAll_writes h writes) EvalM.popScope

theorem stream_writes (h : ∀ e, Writes (sub.render e) (write e)) (f : FunctionDef)
    (args : CallArgs Expr) : Writes (f.stream sub args) (writtenByFunction write sub f args) := by
  refine Writes.after (EvalM.note f.tag) fun _ => ?_
  cases f.behaviour with
  | answer v => exact Writes.value v
  | compute formals body => exact Writes.after _ Writes.value
  | emit formals writes => exact emit_writes h formals writes args

theorem renderCall_writes (env : Env) (h : ∀ e, Writes (sub.render e) (write e)) (callee : Expr)
    (args : CallArgs Expr) :
    Writes (renderCall env sub callee args) (writtenByCall write env sub callee args) := by
  refine Writes.after (sub.eval callee) fun f => ?_
  cases env.library.resolve f with
  | none => exact Writes.after _ Writes.value
  | some d => exact stream_writes h d args

theorem renderStep_writes (env : Env) (h : ∀ e, Writes (sub.render e) (write e)) (e : Expr) :
    Writes (renderStep env sub e) (writtenStep write env sub e) := by
  have hvalue : Writes (fun b => do pure (b.write (← evalStep env sub e)))
      (do pure [← evalStep env sub e]) := Writes.after _ Writes.value
  cases e with
  | call callee args => exact renderCall_writes env h callee args
  | full body guard =>
      cases guard with
      | some guard => cases body <;> exact hvalue
      | none =>
          cases body with
          | none => exact Writes.nothing
          | some body => exact h body
  | _ => exact hvalue

end

theorem renderTo_writes (env : Env) (depth : Nat) (e : Expr) :
    Writes (renderTo env depth e) (writtenTo env depth e) := by
  induction depth generalizing e with
  | zero => exact Writes.outOfDepth
  | succ depth ih => exact renderStep_writes env ih e

/--
**Rendering adds the same code points to every buffer.**  In a buffer of either width
and with any content, an expression keeps the width and adds the code points of the
values it writes, all of them and in order; these values and the context that is left,
with its calls, scopes and pool, are those of `writtenTo`, which no buffer enters.  And
a write is never refused: a value in the buffer's width always joins onto it.
-/
theorem render_appends (env : Env) (depth : Nat) (e : Expr) (c : Context) :
    (∀ b : Text, Option.Rel
      (fun p r => r.1.width = b.width ∧ r.1.chars = b.chars ++ p.1.flatMap Value.shown ∧ r.2 = p.2)
      (writtenTo env depth e c) (renderTo env depth e b c)) ∧
    ∀ (b : Text) (v : Value), b.append (v.toText b.width) = .ok (b.write v) ∧
      (b.write v).width = b.width ∧ (b.write v).chars = b.chars ++ (v.toText b.width).chars := by
  refine ⟨fun b => ?_, fun b v => ⟨?_, ?_, ?_⟩⟩
  · rw [renderTo_writes env depth e b]
    show Option.Rel _ (writtenTo env depth e c)
      ((writtenTo env depth e c).bind fun p => some (p.1.foldl Text.write b, p.2))
    cases writtenTo env depth e c with
    | none => exact .none
    | some p =>
        refine .some ?_
        rw [Text.foldl_write_eq]
        exact ⟨Text.width_extend b _, Text.chars_extend b _, rfl⟩
  · rw [Text.write_eq, Text.append_eq_extend (by simp), Value.chars_toText]
  · rw [Text.write_eq, Text.width_extend]
  · rw [Text.write_eq, Text.chars_extend, Value.chars_toText]

end TemplateExpr
