/-
What a call evaluates to.

A call evaluates its callee first, and what that is says what happens next.  A function
that writes is called as it is rendered, into a text of its own; a range binds its
arguments and evaluates those it has bound in the order of the parameters, or none of them
if they do not bind.  `loop.cycle` evaluates one of its arguments and has its own module.
-/
import TemplateExpr.Proofs.Rules

namespace TemplateExpr

open EvalM (Answers Deepens)

variable {env : Env} {c c' c₁ : Context} {v : Value}

/-! ### Calls -/

/-- A call evaluates its callee and then dispatches on what that is. -/
theorem evaluates_call {callee : Expr} {f : Value} {args : CallArgs Expr}
    (hcallee : Evaluates env callee c f c')
    (hdispatch : Deepens fun n => dispatch env (env.evaluator n) f args) :
    Evaluates env (.call callee args) c v c₁ ↔
      Answers (fun n => dispatch env (env.evaluator n) f args) c' v c₁ := by
  rw [evaluates_iff_step]
  constructor
  · intro h
    obtain ⟨f', c'', hcallee', h⟩ := Answers.of_bind h
    obtain ⟨rfl, rfl⟩ := hcallee.unique hcallee'
    exact h
  · exact Answers.bind (f := fun f n => dispatch env (env.evaluator n) f args)
      (deepens_evalTo env callee) hdispatch hcallee

/-- A function that writes collects in a text what it would write to an empty buffer. -/
theorem FunctionDef.call_eq_of_emits {d : FunctionDef} (hemits : d.emits = true) (env : Env)
    (sub : Evaluator) (args : CallArgs Expr) :
    d.call env sub args =
      d.stream sub args (.empty env.width) >>= fun t => EvalM.create (.text t) := by
  obtain ⟨tag, origin, behaviour⟩ := d
  cases behaviour with
  | answer a => exact absurd hemits (by simp [emits])
  | compute formals body => exact absurd hemits (by simp [emits])
  | emit formals writes => simp [call, stream]

/-- The value of a call of a function that writes is the text the call renders as. -/
theorem evaluates_call_emits {callee : Expr} {f : Value} {args : CallArgs Expr} {d : FunctionDef}
    (hcallee : Evaluates env callee c f c') (hd : env.library.resolve f = some d)
    (hcallable : d.origin.callable = true) (hemits : d.emits = true) :
    Evaluates env (.call callee args) c v c₁ ↔
      ∃ t c'', Renders env (.call callee args) (.empty env.width) c t c'' ∧ v = .of (.text t) ∧
        c₁ = c''.keep (.text t) := by
  have hdispatch : ∀ sub, dispatch env sub f args =
      d.stream sub args (.empty env.width) >>= fun t => EvalM.create (.text t) := by
    intro sub
    rw [dispatch_of_resolve hd hcallable, FunctionDef.call_eq_of_emits hemits]
  constructor
  · intro h
    obtain ⟨n, hrun⟩ := evaluates_iff_step.mp h
    obtain ⟨f', c'', hn, hrun⟩ := EvalM.bind_eq_some_iff.mp hrun
    obtain ⟨rfl, rfl⟩ := hcallee.unique ⟨n, hn⟩
    rw [hdispatch] at hrun
    obtain ⟨t, c'', ht, hcreate⟩ := EvalM.bind_eq_some_iff.mp hrun
    obtain ⟨rfl, rfl⟩ := Prod.mk.inj (Option.some.inj hcreate)
    exact ⟨t, c'', ⟨n + 1, (renderTo_call hn hd _).trans ht⟩, rfl, rfl⟩
  · intro h
    obtain ⟨t, c'', ⟨n, ht⟩, rfl, rfl⟩ := h
    cases n with
    | zero => exact absurd ht (by simp [renderTo, EvalM.outOfDepth])
    | succ n =>
        obtain ⟨f', c₂, hn, -⟩ := EvalM.bind_eq_some_iff.mp ht
        obtain ⟨rfl, rfl⟩ := hcallee.unique ⟨n, hn⟩
        rw [renderTo_call hn hd] at ht
        refine evaluates_iff_step.mpr ⟨n, (EvalM.bind_run hn).trans ?_⟩
        rw [hdispatch, EvalM.bind_run ht]
        rfl

/-! ### Ranges

A range is a built-in and opens no scope.  Its operands are evaluated even where the
step turns out to be zero, but not where the arguments fail to bind.
-/

/-- The expressions a range evaluates, in order. -/
def rangeOperands (args : CallArgs Expr) : List Expr :=
  let b := bind rangeFormals args
  [b.operand "start" .empty, b.operand "stop" .empty, b.operand "step" (.ofInt 1)]

/-- What a range of three integers is: no list at all for a step of zero. -/
def rangeData (start stop step : Int64) : Payload Value :=
  if step == 0 then .empty else .list (.progression (rangeCount start stop step) start step)

theorem answers_rangeStep (env : Env) (b : Binding Expr) :
    (Deepens fun n => rangeStep (env.evaluator n) b) ∧ ∀ c step c₁,
      Answers (fun n => rangeStep (env.evaluator n) b) c step c₁ ↔
        ∃ u, Evaluates env (b.operand "step" (.ofInt 1)) c u c₁ ∧ step = u.toInt 0 := by
  unfold rangeStep Binding.operand
  rcases Dict.get? "step" b.args with _ | ⟨e⟩ | ⟨u⟩
  · refine ⟨.const _, fun c step c₁ => ?_⟩
    simp only [Answers.pure_iff, evaluates_const]
    constructor
    · intro h
      obtain ⟨rfl, rfl⟩ := h
      exact ⟨_, ⟨rfl, rfl⟩, rfl⟩
    · intro h
      obtain ⟨_, ⟨rfl, rfl⟩, rfl⟩ := h
      exact ⟨rfl, rfl⟩
  · exact ⟨(deepens_evalTo env e).bind fun _ => .const _, fun c step c₁ => Answers.map_iff⟩
  · refine ⟨.const _, fun c step c₁ => Answers.map_iff.trans ?_⟩
    exact exists_congr fun _ => and_congr_left fun _ => Answers.pure_iff.trans evaluates_const.symm

/-- A range that binds makes its payload, be it a list or nothing, of its three parameters. -/
theorem dispatch_range {f : Value} {args : CallArgs Expr} (hf : f.asBuiltin? = some .range)
    (hbinds : (bind rangeFormals args).succeeded = true) (sub : Evaluator) :
    dispatch env sub f args =
      (bind rangeFormals args).value sub "start" >>= fun start =>
        (bind rangeFormals args).value sub "stop" >>= fun stop =>
          rangeStep sub (bind rangeFormals args) >>= fun step =>
            EvalM.create (rangeData (start.toInt 0) (stop.toInt 0) step) := by
  have hmake : ∀ (start stop : Value) (step : Int64),
      (if step == 0 then pure .empty
        else EvalM.create (.list (.progression (rangeCount (start.toInt 0) (stop.toInt 0) step)
          (start.toInt 0) step))) =
        EvalM.create (rangeData (start.toInt 0) (stop.toInt 0) step) := by
    intro start stop step
    unfold rangeData
    by_cases h : (step == 0) = true
    · rw [if_pos h, if_pos h]
      rfl
    · rw [if_neg h, if_neg h]
  simp only [← hmake]
  unfold dispatch evalRange
  rw [hf]
  dsimp only
  rw [hbinds]
  rfl

/-- A call of `range` that binds makes a list of what its three parameters evaluate to. -/
theorem evaluates_call_range {callee : Expr} {f : Value} {args : CallArgs Expr}
    (hcallee : Evaluates env callee c f c') (hf : f.asBuiltin? = some .range)
    (hbinds : (bind rangeFormals args).succeeded = true) :
    Evaluates env (.call callee args) c v c₁ ↔
      ∃ start stop step c'', EvaluatesEach env (rangeOperands args) c' [start, stop, step] c'' ∧
        v = .of (rangeData (start.toInt 0) (stop.toInt 0) (step.toInt 0)) ∧
        c₁ = c''.keep (rangeData (start.toInt 0) (stop.toInt 0) (step.toInt 0)) := by
  have hstart := deepens_value (bind rangeFormals args) "start" env
  have hstop := deepens_value (bind rangeFormals args) "stop" env
  obtain ⟨hstep, hstep_iff⟩ := answers_rangeStep env (bind rangeFormals args)
  have hmake : ∀ start stop : Value, Deepens fun n =>
      rangeStep (env.evaluator n) (bind rangeFormals args) >>= fun step =>
        EvalM.create (rangeData (start.toInt 0) (stop.toInt 0) step) :=
    fun start stop => hstep.bind fun _ => .const _
  rw [evaluates_call hcallee (by
    simp only [dispatch_range hf hbinds]
    exact hstart.bind fun start => hstop.bind (hmake start))]
  simp only [dispatch_range hf hbinds]
  rw [Answers.bind_iff hstart fun start => hstop.bind (hmake start)]
  constructor
  · intro h
    obtain ⟨start, c₂, hrun₁, h⟩ := h
    obtain ⟨stop, c₃, hrun₂, h⟩ := h.of_bind
    obtain ⟨step, c₄, hrun₃, h⟩ := h.of_bind
    obtain ⟨u, hu, rfl⟩ := (hstep_iff c₃ step c₄).mp hrun₃
    obtain ⟨rfl, rfl⟩ := Answers.create_iff.mp h
    exact ⟨start, stop, u, c₄, .cons ((answers_value _ _).mp hrun₁)
      (.cons ((answers_value _ _).mp hrun₂) (.cons hu .nil)), rfl, rfl⟩
  · intro h
    obtain ⟨start, stop, u, c₄, hoperands, rfl, rfl⟩ := h
    obtain ⟨_, _, c₂, hrun₁, hoperands, ⟨⟩⟩ := evaluatesEach_cons.mp hoperands
    obtain ⟨_, _, c₃, hrun₂, hoperands, ⟨⟩⟩ := evaluatesEach_cons.mp hoperands
    obtain ⟨_, _, c₅, hrun₃, hoperands, ⟨⟩⟩ := evaluatesEach_cons.mp hoperands
    obtain ⟨-, rfl⟩ := evaluatesEach_nil.mp hoperands
    refine ⟨start, c₂, (answers_value _ _).mpr hrun₁, ?_⟩
    refine Answers.bind hstop (hmake start stop) ((answers_value _ _).mpr hrun₂) ?_
    refine Answers.bind hstep (.const _) ((hstep_iff c₃ _ c₄).mpr ⟨u, hrun₃, rfl⟩) ?_
    exact Answers.create_iff.mpr ⟨rfl, rfl⟩

/-- A call of `range` that does not bind evaluates no argument. -/
theorem evaluates_call_range_unbound {callee : Expr} {f : Value} {args : CallArgs Expr}
    (hcallee : Evaluates env callee c f c') (hf : f.asBuiltin? = some .range)
    (hbinds : (bind rangeFormals args).succeeded = false) :
    Evaluates env (.call callee args) c v c₁ ↔ v = .empty ∧ c₁ = c' := by
  have hdispatch : ∀ sub, dispatch env sub f args = pure .empty := by
    intro sub
    unfold dispatch evalRange
    rw [hf]
    dsimp only
    rw [hbinds]
    rfl
  rw [evaluates_call hcallee (by simp only [hdispatch]; exact .const _)]
  simp only [hdispatch, Answers.pure_iff]

end TemplateExpr
