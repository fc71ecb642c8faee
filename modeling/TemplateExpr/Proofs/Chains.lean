/-
Chains of filters in two parts.

The filters of a chain take turns.  A filter whose turn it is evaluates its arguments, in
the context that the filters before it have left, and only then looks at its input, of
which it sees the text alone; what it makes is in the pool before the next filter evaluates
anything.  So all that one part of a chain hands on to the next is a value and a context,
which is what a chain on top of another one starts from.  That the value is marked as a
scratch result on the way from one chain to the other is something no filter can see.
-/
import TemplateExpr.Proofs.Rules

namespace TemplateExpr

open EvalM (Answers Deepens)

variable {env : Env} {base : Expr} {link : FilterLink Expr} {chain xs ys : List (FilterLink Expr)}
  {c c₁ : Context} {u v : Value}

/-! ### Filters one after the other -/

/-- What a filter makes of the text of a value and of the values of its arguments. -/
def FilterLink.product (env : Env) (link : FilterLink Expr) (u : Value) (args : List Value) :
    Payload Value :=
  link.filter.result (u.toOwnText env.width) args

/--
Filters are applied to a value one after the other, each to the scratch result that the one
before has made and in the context that it left.  Where no filter is left, the value is
marked as a scratch result.
-/
inductive AppliesEach (env : Env) :
    List (FilterLink Expr) → Value → Context → Value → Context → Prop
  | nil {u : Value} {c : Context} : AppliesEach env [] u c u.asTemporary c
  | cons {link : FilterLink Expr} {chain : List (FilterLink Expr)} {u v : Value} {args : List Value}
      {c c' c₁ : Context} (hargs : EvaluatesEach env link.operands c args c')
      (hrest : AppliesEach env chain (Value.of (link.product env u args)).asTemporary
        (c'.keep (link.product env u args)) v c₁) :
      AppliesEach env (link :: chain) u c v c₁

theorem appliesEach_nil : AppliesEach env [] u c v c₁ ↔ v = u.asTemporary ∧ c₁ = c := by
  constructor
  · intro h
    cases h
    exact ⟨rfl, rfl⟩
  · intro h
    obtain ⟨rfl, rfl⟩ := h
    exact .nil

theorem appliesEach_cons :
    AppliesEach env (link :: chain) u c v c₁ ↔
      ∃ args c', EvaluatesEach env link.operands c args c' ∧
        AppliesEach env chain (Value.of (link.product env u args)).asTemporary
          (c'.keep (link.product env u args)) v c₁ := by
  constructor
  · intro h
    obtain _ | ⟨hargs, hrest⟩ := h
    exact ⟨_, _, hargs, hrest⟩
  · intro h
    obtain ⟨args, c', hargs, hrest⟩ := h
    exact .cons hargs hrest

theorem Value.toOwnText_asTemporary (u : Value) (w : CharWidth) :
    u.asTemporary.toOwnText w = u.toOwnText w := by
  obtain ⟨data, temporary, parent⟩ := u
  rfl

/-- No filter can tell a scratch result from any other value. -/
theorem appliesEach_asTemporary :
    AppliesEach env chain u.asTemporary c v c₁ ↔ AppliesEach env chain u c v c₁ := by
  cases chain with
  | nil =>
      rw [appliesEach_nil, appliesEach_nil]
      rfl
  | cons link chain =>
      have hproduct : ∀ args, link.product env u.asTemporary args = link.product env u args := by
        intro args
        unfold FilterLink.product
        rw [u.toOwnText_asTemporary]
      simp only [appliesEach_cons, hproduct]

/-- Filters in two rows are applied one row after the other. -/
theorem appliesEach_append :
    AppliesEach env (xs ++ ys) u c v c₁ ↔
      ∃ w c', AppliesEach env xs u c w c' ∧ AppliesEach env ys w c' v c₁ := by
  induction xs generalizing u c with
  | nil =>
      simp only [List.nil_append, appliesEach_nil]
      constructor
      · intro h
        exact ⟨u.asTemporary, c, ⟨rfl, rfl⟩, appliesEach_asTemporary.mpr h⟩
      · intro h
        obtain ⟨_, _, ⟨rfl, rfl⟩, h⟩ := h
        exact appliesEach_asTemporary.mp h
  | cons x xs ih =>
      simp only [List.cons_append, appliesEach_cons, ih]
      constructor
      · intro h
        obtain ⟨args, c', hargs, w, c'', hxs, hys⟩ := h
        exact ⟨w, c'', ⟨args, c', hargs, hxs⟩, hys⟩
      · intro h
        obtain ⟨w, c'', ⟨args, c', hargs, hxs⟩, hys⟩ := h
        exact ⟨args, c', hargs, w, c'', hxs, hys⟩

/-! ### Chains

A chain of an expression applies its filters one after the other to what the expression
is.  That is the one rule for chains; what a chain is with one filter more follows from it.
-/

theorem deepens_apply (env : Env) (link : FilterLink Expr) (u : Value) :
    Deepens fun n => link.filter.apply env (env.evaluator n) link.args u :=
  (deepens_payload env link.filter _ _).bind fun _ => .const _

theorem answers_apply :
    Answers (fun n => link.filter.apply env (env.evaluator n) link.args u) c v c₁ ↔
      ∃ args c', EvaluatesEach env link.operands c args c' ∧
        v = (Value.of (link.product env u args)).asTemporary ∧
        c₁ = c'.keep (link.product env u args) := by
  unfold Filter.apply
  rw [Answers.bind_iff (deepens_payload env link.filter _ _) fun _ => .const _]
  simp only [answers_payload, Answers.temporary_iff]
  constructor
  · intro h
    obtain ⟨data, c', ⟨args, hargs, rfl⟩, hv, hc₁⟩ := h
    exact ⟨args, c', hargs, hv, hc₁⟩
  · intro h
    obtain ⟨args, c', hargs, hv, hc₁⟩ := h
    exact ⟨_, c', ⟨args, hargs, rfl⟩, hv, hc₁⟩

theorem deepens_chain (env : Env) (chain : List (FilterLink Expr)) (u : Value) :
    Deepens fun n => evalChain env (env.evaluator n) chain u :=
  .foldlM (fun u link => deepens_apply env link u) chain u

/-- A chain applies its filters from the first one on. -/
theorem answers_chain :
    Answers (fun n => evalChain env (env.evaluator n) chain u >>= fun w => pure w.asTemporary)
        c v c₁ ↔ AppliesEach env chain u c v c₁ := by
  induction chain generalizing u c with
  | nil => exact Answers.pure_iff.trans appliesEach_nil.symm
  | cons link chain ih =>
      have hchain : ∀ sub : Evaluator,
          (evalChain env sub (link :: chain) u >>= fun w => pure w.asTemporary) =
          link.filter.apply env sub link.args u >>= fun w =>
            evalChain env sub chain w >>= fun w => pure w.asTemporary := by
        intro sub
        simp [evalChain]
      simp only [hchain]
      rw [Answers.bind_iff (deepens_apply env link u) fun w =>
        (deepens_chain env chain w).bind fun _ => .const _]
      simp only [ih, answers_apply, appliesEach_cons]
      constructor
      · intro h
        obtain ⟨_, _, ⟨args, c', hargs, rfl, rfl⟩, hrest⟩ := h
        exact ⟨args, c', hargs, hrest⟩
      · intro h
        obtain ⟨args, c', hargs, hrest⟩ := h
        exact ⟨_, _, ⟨args, c', hargs, rfl, rfl⟩, hrest⟩

/-- A filtered expression evaluates its base and applies the chain to what that is. -/
theorem evaluates_filtered :
    Evaluates env (.filtered base chain) c v c₁ ↔
      ∃ u c', Evaluates env base c u c' ∧ AppliesEach env chain u c' v c₁ := by
  rw [evaluates_iff_step]
  simp only [evalStep]
  rw [Answers.bind_iff (deepens_evalTo env base) fun u =>
    (deepens_chain env chain u).bind fun _ => .const _]
  simp only [answers_chain]
  exact Iff.rfl

/-- A chain is a chain on top of the chain of its first filters. -/
theorem evaluates_filtered_append :
    Evaluates env (.filtered base (xs ++ ys)) c v c₁ ↔
      Evaluates env (.filtered (.filtered base xs) ys) c v c₁ := by
  simp only [evaluates_filtered, appliesEach_append]
  constructor
  · intro h
    obtain ⟨u, c', hbase, w, c'', hxs, hys⟩ := h
    exact ⟨w, c'', ⟨u, c', hbase, hxs⟩, hys⟩
  · intro h
    obtain ⟨w, c'', ⟨u, c', hbase, hxs⟩, hys⟩ := h
    exact ⟨u, c', hbase, w, c'', hxs, hys⟩

/-- A chain with one filter more applies that filter to what the chain before it yields. -/
theorem evaluates_filtered_snoc :
    Evaluates env (.filtered base (chain ++ [link])) c v c₁ ↔
      ∃ u c' args c'', Evaluates env (.filtered base chain) c u c' ∧
        EvaluatesEach env link.operands c' args c'' ∧
        v = (Value.of (link.product env u args)).asTemporary ∧
        c₁ = c''.keep (link.product env u args) := by
  rw [evaluates_filtered_append, evaluates_filtered]
  simp only [appliesEach_cons, appliesEach_nil, ← exists_and_left]
  exact Iff.rfl

/--
**Chains of filters compose.**  A chain in two parts evaluates exactly if the second part
on top of the first does, to the same value with the same marks, and leaves the same
context.  Wherever a filter stands in a chain, its arguments are evaluated in the context
that the filters before it have left, and once it has put what it makes into the pool the
filters behind it are applied to that.
-/
theorem filter_chains_compose (env : Env) (base : Expr) (c : Context) (v : Value) (c₁ : Context) :
    (∀ xs ys, Evaluates env (.filtered base (xs ++ ys)) c v c₁ ↔
      Evaluates env (.filtered (.filtered base xs) ys) c v c₁) ∧
    ∀ before link after, Evaluates env (.filtered base (before ++ link :: after)) c v c₁ ↔
      ∃ u c' w c'' args c₂, Evaluates env base c u c' ∧ AppliesEach env before u c' w c'' ∧
        EvaluatesEach env link.operands c'' args c₂ ∧
        AppliesEach env after (Value.of (link.product env w args)).asTemporary
          (c₂.keep (link.product env w args)) v c₁ := by
  refine ⟨fun xs ys => evaluates_filtered_append, fun before link after => ?_⟩
  simp only [evaluates_filtered, appliesEach_append, appliesEach_cons]
  constructor
  · intro h
    obtain ⟨u, c', hbase, w, c'', hbefore, args, c₂, hargs, hafter⟩ := h
    exact ⟨u, c', w, c'', args, c₂, hbase, hbefore, hargs, hafter⟩
  · intro h
    obtain ⟨u, c', w, c'', args, c₂, hbase, hbefore, hargs, hafter⟩ := h
    exact ⟨u, c', hbase, w, c'', hbefore, args, c₂, hargs, hafter⟩

end TemplateExpr
