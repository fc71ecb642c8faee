/-
Evaluation leaves the scopes as it found them.

Only a call opens a scope, and it closes the scope again when its body is done.  The
arguments are evaluated before the scope is opened, definitions go into the opened scope
only, and a call whose arguments do not bind opens none.

`Leads` follows the scopes through a computation.  A computation that `Restores` keeps
every property of the scopes, which is to say that it leaves them alone; between the
opening of a scope and its closing, the scopes stay `Above` what they were before.

That scopes are restored is proved without a likeness.  It is a property of single runs,
and whether a scope that was opened is closed again has nothing to do with which values
are in it.
-/
import TemplateExpr.Proofs.Simulation.Run
import TemplateExpr.Script

namespace TemplateExpr

/-- One frame is open on top of `s`, whatever is defined in it. -/
def Scopes.Above (s s' : Scopes) : Prop := ∃ frame, s' = ⟨s.globals, frame :: s.frames⟩

namespace EvalM

variable {α β : Type} {P : Scopes → Prop} {s : Scopes}

/-- Started in scopes with `P`, whenever `m` answers, the answer and the scopes left satisfy `Q`. -/
def Leads (P : Scopes → Prop) (m : EvalM α) (Q : α → Scopes → Prop) : Prop :=
  ∀ c a c₁, P c.scopes → m c = some (a, c₁) → Q a c₁.scopes

/-- Whatever holds of the scopes, it still holds whenever `m` answers. -/
def Restores (m : EvalM α) : Prop := ∀ P, Leads P m fun _ => P

namespace Leads

theorem pure {Q : α → Scopes → Prop} {a : α} (h : ∀ s, P s → Q a s) : Leads P (Pure.pure a) Q := by
  intro c b c₁ hc hrun
  obtain ⟨rfl, rfl⟩ := Prod.mk.inj (Option.some.inj hrun)
  exact h c.scopes hc

theorem bind {Q : α → Scopes → Prop} {R : β → Scopes → Prop} {m : EvalM α} {f : α → EvalM β}
    (hm : Leads P m Q) (hf : ∀ a, Leads (Q a) (f a) R) : Leads P (m >>= f) R := by
  intro c b c₂ hc hrun
  obtain ⟨a, c₁, hmrun, hfrun⟩ := bind_eq_some_iff.mp hrun
  exact hf a c₁ b c₂ (hm c a c₁ hc hmrun) hfrun

theorem forM {f : α → EvalM PUnit} (hf : ∀ a, Leads P (f a) fun _ => P) (l : List α) :
    Leads P (l.forM f) fun _ => P := by
  induction l with
  | nil => exact pure fun _ hs => hs
  | cons a l ih => exact bind (hf a) fun _ => ih

theorem pushScope : Leads (· = s) EvalM.pushScope fun _ => s.Above := by
  intro c u c₁ hc hrun
  obtain ⟨-, rfl⟩ := Prod.mk.inj (Option.some.inj hrun)
  exact ⟨.nil, by rw [← hc]; rfl⟩

theorem define (name : String) (v : Value) :
    Leads s.Above (EvalM.define name v) fun _ => s.Above := by
  intro c u c₁ hc hrun
  obtain ⟨-, rfl⟩ := Prod.mk.inj (Option.some.inj hrun)
  obtain ⟨frame, hframe⟩ := hc
  refine ⟨Dict.insert name v frame, ?_⟩
  show c.scopes.define name v = _
  rw [hframe]
  rfl

theorem popScope : Leads s.Above EvalM.popScope fun _ => (· = s) := by
  intro c u c₁ hc hrun
  obtain ⟨-, rfl⟩ := Prod.mk.inj (Option.some.inj hrun)
  obtain ⟨frame, hframe⟩ := hc
  show c.scopes.pop = s
  rw [hframe]
  rfl

end Leads

namespace Restores

theorem of_same {m : EvalM α} (h : ∀ s, Leads (· = s) m fun _ => (· = s)) : Restores m := by
  intro P c a c₁ hc hrun
  rw [h c.scopes c a c₁ rfl hrun]
  exact hc

theorem scopes_eq {m : EvalM α} (h : Restores m) {c c₁ : Context} {a : α}
    (hrun : m c = some (a, c₁)) : c₁.scopes = c.scopes :=
  h (· = c.scopes) c a c₁ rfl hrun

theorem pure (a : α) : Restores (Pure.pure a) := fun _ => Leads.pure fun _ hs => hs

theorem bind {m : EvalM α} {f : α → EvalM β} (hm : Restores m) (hf : ∀ a, Restores (f a)) :
    Restores (m >>= f) :=
  fun P => Leads.bind (hm P) fun a => hf a P

theorem outOfDepth : Restores (EvalM.outOfDepth : EvalM α) := by
  intro P c a c₁ _ hrun
  exact absurd hrun (by simp [EvalM.outOfDepth])

theorem create (data : Payload Value) : Restores (EvalM.create data) := by
  intro P c v c₁ hc hrun
  obtain ⟨-, rfl⟩ := Prod.mk.inj (Option.some.inj hrun)
  exact hc

theorem lookup (name : String) : Restores (EvalM.lookup name) := by
  intro P c v c₁ hc hrun
  obtain ⟨-, rfl⟩ := Prod.mk.inj (Option.some.inj hrun)
  exact hc

theorem note (line : String) : Restores (EvalM.note line) := by
  intro P c u c₁ hc hrun
  obtain ⟨-, rfl⟩ := Prod.mk.inj (Option.some.inj hrun)
  exact hc

theorem mapM {f : α → EvalM β} (hf : ∀ a, Restores (f a)) (l : List α) : Restores (l.mapM f) := by
  induction l with
  | nil => exact pure []
  | cons a l ih =>
      rw [List.mapM_cons]
      exact bind (hf a) fun b => bind ih fun bs => pure (b :: bs)

theorem foldlM {f : β → α → EvalM β} (hf : ∀ b a, Restores (f b a)) (l : List α) (b : β) :
    Restores (l.foldlM f b) := by
  induction l generalizing b with
  | nil => exact pure b
  | cons a l ih =>
      rw [List.foldlM_cons]
      exact bind (hf b a) fun b₁ => ih b₁

end Restores

end EvalM

open EvalM (Leads Restores)

/-- An evaluator that leaves the scopes as it found them. -/
structure Evaluator.Restores (sub : Evaluator) : Prop where
  eval : ∀ e, EvalM.Restores (sub.eval e)
  render : ∀ e t, EvalM.Restores (sub.render e t)

variable {sub : Evaluator}

/-! ### Arguments and operators -/

theorem Bound.value_restores (h : sub.Restores) (x : Bound Expr) : Restores (x.value sub) := by
  cases x with
  | given e => exact h.eval e
  | fallback v => exact Restores.pure v

theorem Binding.value_restores (h : sub.Restores) (b : Binding Expr) (name : String) :
    Restores (b.value sub name) := by
  unfold Binding.value
  cases Dict.get? name b.args with
  | none => exact Restores.pure Value.empty
  | some x => exact Bound.value_restores h x

theorem evalEntries_restores {ε : Type} {f : ε → EvalM Value} (hf : ∀ e, Restores (f e))
    (entries : List (String × ε)) : Restores (evalEntries f entries) := by
  refine Restores.mapM (fun x => ?_) entries
  exact (hf x.2).bind fun v => Restores.pure (x.1, v)

theorem Tester.apply_restores (h : sub.Restores) (t : Tester) (args : CallArgs Expr) (v : Value) :
    Restores (t.apply sub args v) := by
  cases t with
  | mem => exact (Binding.value_restores h _ _).bind fun s => Restores.pure _
  | defined => exact Restores.pure _
  | undefined => exact Restores.pure _

theorem evalTruth_restores (h : sub.Restores) (e : Expr) : Restores (evalTruth sub e) :=
  (h.eval e).bind fun _ => Restores.pure _

theorem evalBinary_restores (env : Env) (h : sub.Restores) (op : BinaryOp) (l r : Expr) :
    Restores (evalBinary env sub op l r) := by
  refine (h.eval l).bind fun left => ?_
  have hbool : ∀ m : EvalM Bool, Restores m →
      Restores (m >>= fun b => pure (left.scratch (.bool b))) :=
    fun m hm => hm.bind fun b => Restores.pure _
  have harith : ∀ op : BinaryOp, Restores (do
      let right ← sub.eval r
      let result ← EvalM.create (op.apply left right)
      pure (left.scratch result.data)) :=
    fun op => (h.eval r).bind fun right => (Restores.create _).bind fun result => Restores.pure _
  cases op with
  | and =>
      refine hbool _ ?_
      split
      · exact evalTruth_restores h r
      · exact Restores.pure false
  | or =>
      refine hbool _ ?_
      split
      · exact Restores.pure true
      · exact evalTruth_restores h r
  | mem => exact hbool _ (Tester.apply_restores h .mem _ left)
  | concat => exact (h.eval r).bind fun right => Restores.pure _
  | _ => exact harith _

theorem Filter.apply_restores (env : Env) (h : sub.Restores) (f : Filter) (args : CallArgs Expr)
    (base : Value) : Restores (f.apply env sub args base) := by
  have hpayload : ∀ b t, Restores (f.payload sub b t) := by
    intro b t
    have hvalue := Binding.value_restores h b
    cases f with
    | replace =>
        exact (hvalue _).bind fun _ =>
          (hvalue _).bind fun _ => (hvalue _).bind fun _ => Restores.pure _
    | truncate =>
        exact (hvalue _).bind fun _ => (hvalue _).bind fun _ => (hvalue _).bind fun _ =>
          (hvalue _).bind fun _ => Restores.pure _
    | _ => exact Restores.pure _
  exact (hpayload _ _).bind fun data => (Restores.create data).bind fun v => Restores.pure _

/-! ### Calls

The frame is opened by `enter` and closed by the caller of `enter`, so neither of the
two restores the scopes on its own.  Between them the body may define names, and these
land in the frame that is about to be closed.
-/

/-- Entering a function opens one frame, or none if the arguments do not bind. -/
theorem enter_leads (h : sub.Restores) (formals : List Formal) (args : CallArgs Expr) (s : Scopes) :
    Leads (· = s) (enter sub formals args)
      fun entered s' => if entered then s.Above s' else s' = s := by
  unfold enter
  dsimp only
  split
  · refine (evalEntries_restores (Bound.value_restores h) _ _).bind fun bound => ?_
    refine (Restores.mapM h.eval _ _).bind fun rest => ?_
    refine (evalEntries_restores h.eval _ _).bind fun named => ?_
    refine Leads.pushScope.bind fun _ => ?_
    refine (Leads.forM (fun e => Leads.define e.1 e.2) bound).bind fun _ => ?_
    refine (Restores.create _ _).bind fun rest => ?_
    refine (Restores.create _ _).bind fun named => ?_
    refine (Leads.define "args" rest).bind fun _ => ?_
    refine (Leads.define "kwargs" named).bind fun _ => ?_
    exact Leads.pure fun _ hs => hs
  · exact (Restores.note _ _).bind fun _ => Leads.pure fun _ hs => hs

/-- A function's body runs in the function's own scope. -/
theorem entered_restores {α : Type} (h : sub.Restores) (formals : List Formal)
    (args : CallArgs Expr) {body : EvalM α} (hbody : Restores body) (otherwise : α) :
    Restores (do
      if ← enter sub formals args then
        let a ← body
        EvalM.popScope
        pure a
      else pure otherwise) := by
  refine Restores.of_same fun s => (enter_leads h formals args s).bind fun entered => ?_
  cases entered with
  | false => exact Leads.pure fun _ hs => hs
  | true =>
      refine (hbody s.Above).bind fun a => ?_
      exact Leads.popScope.bind fun _ => Leads.pure fun _ hs => hs

theorem emit_restores (h : sub.Restores) (formals : List Formal) (writes : List Expr)
    (args : CallArgs Expr) (t : Text) : Restores (emit sub formals writes args t) :=
  entered_restores h formals args (Restores.foldlM (fun t e => h.render e t) writes t) t

theorem compute_restores (h : sub.Restores) (formals : List Formal) (body : Expr)
    (args : CallArgs Expr) : Restores (compute sub formals body args) :=
  entered_restores h formals args (h.eval body) .empty

theorem FunctionDef.call_restores (env : Env) (h : sub.Restores) (f : FunctionDef)
    (args : CallArgs Expr) : Restores (f.call env sub args) := by
  refine (Restores.note f.tag).bind fun _ => ?_
  cases f.behaviour with
  | answer v => exact Restores.pure v
  | compute formals body => exact compute_restores h formals body args
  | emit formals writes =>
      exact (emit_restores h formals writes args _).bind fun t => Restores.create (.text t)

theorem FunctionDef.stream_restores (h : sub.Restores) (f : FunctionDef) (args : CallArgs Expr)
    (t : Text) : Restores (f.stream sub args t) := by
  refine (Restores.note f.tag).bind fun _ => ?_
  cases f.behaviour with
  | answer v => exact Restores.pure (t.write v)
  | compute formals body =>
      exact (compute_restores h formals body args).bind fun v => Restores.pure (t.write v)
  | emit formals writes => exact emit_restores h formals writes args t

theorem evalRange_restores (h : sub.Restores) (args : CallArgs Expr) :
    Restores (evalRange sub args) := by
  have hstep : ∀ b, Restores (rangeStep sub b) := by
    intro b
    unfold rangeStep
    split
    · exact (Bound.value_restores h _).bind fun v => Restores.pure _
    · exact Restores.pure 1
  unfold evalRange
  dsimp only
  split
  · refine (Binding.value_restores h _ "start").bind fun start => ?_
    refine (Binding.value_restores h _ "stop").bind fun stop => ?_
    refine (hstep _).bind fun step => ?_
    split
    · exact Restores.pure Value.empty
    · exact Restores.create _
  · exact Restores.pure Value.empty

theorem evalCycle_restores (h : sub.Restores) (args : CallArgs Expr) :
    Restores (evalCycle sub args) := by
  refine (Restores.lookup "loop").bind fun loop? => ?_
  split
  · exact Restores.pure Value.empty
  · dsimp only
    split
    · exact h.eval _
    · exact Restores.pure Value.empty

theorem dispatch_restores (env : Env) (h : sub.Restores) (callee : Value) (args : CallArgs Expr) :
    Restores (dispatch env sub callee args) := by
  unfold dispatch
  split
  · exact evalRange_restores h args
  · exact evalCycle_restores h args
  · split
    · split
      · exact FunctionDef.call_restores env h _ args
      · exact Restores.pure Value.empty
    · exact Restores.pure Value.empty

theorem renderCall_restores (env : Env) (h : sub.Restores) (callee : Expr) (args : CallArgs Expr)
    (t : Text) : Restores (renderCall env sub callee args t) := by
  refine (h.eval callee).bind fun f => ?_
  split
  · exact FunctionDef.stream_restores h _ args t
  · exact (dispatch_restores env h f args).bind fun v => Restores.pure (t.write v)

/-! ### Expressions -/

theorem evalIndex_restores (h : sub.Restores) (cur : Value) (index : Expr) :
    Restores (evalIndex sub cur index) := by
  refine (h.eval index).bind fun key => ?_
  have hsubscript : Restores (cur.subscript key) := by
    unfold Value.subscript
    split
    · exact Restores.pure _
    · exact Restores.pure _
    · split
      · exact Restores.create _
      · exact Restores.pure Value.empty
    · exact Restores.pure Value.empty
  exact hsubscript.bind fun v => Restores.pure _

theorem evalGuarded_restores (h : sub.Restores) (body : Expr) (guard : Guard Expr) :
    Restores (evalGuarded sub body guard) := by
  refine (h.eval body).bind fun v => (h.eval guard.test).bind fun test => ?_
  split
  · exact Restores.pure v
  · split
    · exact h.eval _
    · exact Restores.pure Value.empty

theorem evalStep_restores (env : Env) (h : sub.Restores) (e : Expr) :
    Restores (evalStep env sub e) := by
  cases e with
  | const v => exact Restores.pure v
  | var name => exact (Restores.lookup name).bind fun v => Restores.pure _
  | subscript base indices =>
      exact (h.eval base).bind fun v => Restores.foldlM (evalIndex_restores h) indices v
  | filtered base chain =>
      refine (h.eval base).bind fun v => ?_
      have hlink : ∀ (v : Value) (link : FilterLink Expr),
          Restores (link.filter.apply env sub link.args v) :=
        fun v link => Filter.apply_restores env h link.filter link.args v
      exact (Restores.foldlM hlink chain v).bind fun v => Restores.pure v.asTemporary
  | unary op e => exact (h.eval e).bind fun v => Restores.pure _
  | binary op l r => exact evalBinary_restores env h op l r
  | tuple items => exact (Restores.mapM h.eval items).bind fun vs => Restores.create _
  | dict entries => exact (evalEntries_restores h.eval entries).bind fun vs => Restores.create _
  | test subject t args =>
      refine (h.eval subject).bind fun v => ?_
      exact (Tester.apply_restores h t args v).bind fun passed => Restores.pure _
  | call callee args => exact (h.eval callee).bind fun f => dispatch_restores env h f args
  | full body guard =>
      cases body with
      | none => exact Restores.pure Value.empty
      | some body =>
          cases guard with
          | none => exact h.eval body
          | some guard => exact evalGuarded_restores h body guard

theorem renderStep_restores (env : Env) (h : sub.Restores) (e : Expr) (t : Text) :
    Restores (renderStep env sub e t) := by
  have hvalue : Restores (do pure (t.write (← evalStep env sub e))) :=
    (evalStep_restores env h e).bind fun v => Restores.pure (t.write v)
  cases e with
  | call callee args => exact renderCall_restores env h callee args t
  | full body guard =>
      cases guard with
      | some guard => cases body <;> exact hvalue
      | none =>
          cases body with
          | none => exact Restores.pure t
          | some body => exact h.render body t
  | _ => exact hvalue

/-- **Evaluating and rendering leave the scopes as they found them.** -/
theorem runs_restore (env : Env) (depth : Nat) :
    Evaluator.Restores ⟨evalTo env depth, renderTo env depth⟩ := by
  induction depth with
  | zero => exact ⟨fun _ => Restores.outOfDepth, fun _ _ => Restores.outOfDepth⟩
  | succ depth ih => exact ⟨evalStep_restores env ih, renderStep_restores env ih⟩

end TemplateExpr
