/-
Watching the values on the way.

A watched evaluation asks a question about the value of every expression it evaluates,
and gives up as soon as the answer is no.  What it answers is what the plain evaluation
answers, so an answer says that every expression evaluated on the way, in the bodies of
functions and in what they write too, had a value that passed.
-/
import TemplateExpr.Proofs.Depth

namespace TemplateExpr

/-- Evaluates an expression by an evaluator for what is below it, and lets only some values pass. -/
def watchStep (ok : Expr → Value → Bool) (env : Env) (sub : Evaluator) (e : Expr) :
    EvalM Value := do
  let v ← evalStep env sub e
  if ok e v then pure v else EvalM.outOfDepth

/-- Renders an expression; where that means evaluating it, the value has to pass. -/
def watchRenderStep (ok : Expr → Value → Bool) (env : Env) (sub : Evaluator) (e : Expr)
    (buffer : Text) : EvalM Text :=
  match e with
  | .call callee args => renderCall env sub callee args buffer
  | .full none none => pure buffer
  | .full (some body) none => sub.render body buffer
  | e => do pure (buffer.write (← watchStep ok env sub e))

/-- The evaluator down to a depth that lets only some values pass. -/
def watched (ok : Expr → Value → Bool) (env : Env) : (depth : Nat) → Evaluator
  | 0 => ⟨fun _ => EvalM.outOfDepth, fun _ _ => EvalM.outOfDepth⟩
  | depth + 1 =>
    ⟨watchStep ok env (watched ok env depth), watchRenderStep ok env (watched ok env depth)⟩

/-- With enough depth, an expression evaluates to a value, and every value on the way passes. -/
def EvaluatesPassing (ok : Expr → Value → Bool) (env : Env) (e : Expr) (c : Context) (v : Value)
    (c₁ : Context) : Prop :=
  ∃ depth, (watched ok env depth).eval e c = some (v, c₁)

open EvalM (Simulates Follows)

variable {ok ok' : Expr → Value → Bool} {env env' : Env} {e e' : Expr} {c c₁ : Context} {v : Value}

/-- A watched step answers what the step does, if that passes. -/
theorem watchStep_eq_some_iff {sub : Evaluator} :
    watchStep ok env sub e c = some (v, c₁) ↔
      evalStep env sub e c = some (v, c₁) ∧ ok e v = true := by
  unfold watchStep
  rw [EvalM.bind_eq_some_iff]
  constructor
  · intro h
    obtain ⟨u, c', hstep, hpass⟩ := h
    cases hu : ok e u with
    | false =>
        rw [hu] at hpass
        exact absurd hpass (by simp [EvalM.outOfDepth])
    | true =>
        rw [hu] at hpass
        obtain ⟨rfl, rfl⟩ := Prod.mk.inj (Option.some.inj hpass)
        exact ⟨hstep, hu⟩
  · intro h
    obtain ⟨hstep, hpass⟩ := h
    refine ⟨v, c₁, hstep, ?_⟩
    rw [if_pos hpass]
    rfl

/-! ### Watched evaluations that follow others

A check that fails looks like depth that has run out, so a simulation of watched
evaluations says nothing where the first check fails.  What it asks is that a value
which passes on one side corresponds to one that passes on the other.
-/

section

variable {L : Likeness} {b b' : Context} {sub sub' : Evaluator}

/-- What the check lets pass in one step, it lets pass in the other, and the values correspond. -/
theorem watchStep_follows {R : Value → Value → Prop}
    (hstep : Follows L b b' R (evalStep env sub e) (evalStep env' sub' e'))
    (hok : ∀ v v', R v v' → ok e v = true → ok' e' v' = true ∧ L.value v v') :
    Follows L b b' L.value (watchStep ok env sub e) (watchStep ok' env' sub' e') := by
  refine Simulates.bind hstep fun v v' hv => ?_
  cases hpass : ok e v with
  | false => exact Simulates.outOfDepth _
  | true =>
      obtain ⟨hpass', hvalue⟩ := hok v v' hv hpass
      rw [hpass']
      exact Simulates.pure hvalue

theorem watchRenderStep_follows (hL : L.Keeps env.width env'.width)
    (hlib : Library.Alike L env.library env'.library) (hsub : Evaluator.Alike L b b' sub sub')
    (he : Expr.Alike L e e')
    (hstep : Follows L b b' L.value (watchStep ok env sub e) (watchStep ok' env' sub' e'))
    {t t' : Text} (ht : L.text t t') :
    Follows L b b' L.text (watchRenderStep ok env sub e t)
      (watchRenderStep ok' env' sub' e' t') := by
  have hwrite : Follows L b b' L.text (do pure (t.write (← watchStep ok env sub e)))
      (do pure (t'.write (← watchStep ok' env' sub' e'))) :=
    Simulates.bind hstep fun v v' hv => Simulates.pure (hL.write ht hv)
  cases he with
  | call hf hargs => exact renderCall_follows hL hlib hsub hf hargs ht
  | full hb hg =>
      cases hb with
      | none =>
          cases hg with
          | none => exact Simulates.pure ht
          | some _ => exact hwrite
      | some he =>
          cases hg with
          | none => exact hsub.render he ht
          | some _ => exact hwrite
  | _ => exact hwrite

/-- **Where watched steps follow each other, watched runs do.** -/
theorem watched_follow (hL : L.Keeps env.width env'.width)
    (hlib : Library.Alike L env.library env'.library)
    (hstep : ∀ {sub sub' e e'}, Evaluator.Alike L b b' sub sub' → Expr.Alike L e e' →
      Follows L b b' L.value (watchStep ok env sub e) (watchStep ok' env' sub' e'))
    {n m : Nat} (hnm : n ≤ m) :
    Evaluator.Alike L b b' (watched ok env n) (watched ok' env' m) := by
  induction n generalizing m with
  | zero => exact ⟨fun _ _ _ => Simulates.outOfDepth _, fun _ _ => Simulates.outOfDepth _⟩
  | succ n ih =>
      cases m with
      | zero => exact absurd hnm (by omega)
      | succ m =>
          have hsub := ih (Nat.le_of_succ_le_succ hnm)
          exact ⟨fun _ _ he => hstep hsub he,
            fun he ht => watchRenderStep_follows hL hlib hsub he (hstep hsub he) ht⟩

/-- Runs of alike expressions pass alike, if corresponding values do. -/
theorem watched_follow_of_respects (hL : L.Respects env.width env'.width)
    (hlib : Library.Alike L env.library env'.library)
    (hok : ∀ {e e' v v'}, Expr.Alike L e e' → L.value v v' → ok e v = true → ok' e' v' = true)
    {n m : Nat} (hnm : n ≤ m) :
    Evaluator.Alike L b b' (watched ok env n) (watched ok' env' m) := by
  refine watched_follow hL.toKeeps hlib ?_ hnm
  intro sub sub' e e' hsub he
  refine watchStep_follows (evalStep_follows hL hlib hsub he) ?_
  exact fun v v' hv hpass => ⟨hok he hv hpass, hv⟩

end

/-! ### Watching and not watching

An answer of a watched evaluation is one of the plain evaluation.  The converse fails on
purpose: whether it holds is how one states that every value on the way passes.
-/

/-- A check that lets everything pass changes nothing. -/
theorem watched_always (env : Env) (depth : Nat) :
    watched (fun _ _ => true) env depth = ⟨evalTo env depth, renderTo env depth⟩ := by
  have hstep : ∀ sub, watchStep (fun _ _ => true) env sub = evalStep env sub := by
    intro sub
    funext e
    unfold watchStep
    simp
  have hrender : ∀ sub, watchRenderStep (fun _ _ => true) env sub = renderStep env sub := by
    intro sub
    funext e t
    cases e with
    | full body guard =>
        cases body <;> cases guard <;> simp only [watchRenderStep, renderStep, hstep]
    | _ => simp only [watchRenderStep, renderStep, hstep]
  induction depth with
  | zero => rfl
  | succ depth ih =>
      show Evaluator.mk _ _ = Evaluator.mk _ _
      rw [ih, hstep, hrender]
      rfl

/-- More depth, and a check that refuses no more, change no answer. -/
theorem watched_mono {n m : Nat} (hnm : n ≤ m) (hok : ∀ e v, ok e v = true → ok' e v = true)
    (hrun : (watched ok env n).eval e c = some (v, c₁)) :
    (watched ok' env m).eval e c = some (v, c₁) := by
  have hlib := Library.Alike.refl (L := .same) (fun _ => rfl) (fun _ => trivial) env.library
  have hruns : Evaluator.Alike .same c c (watched ok env n) (watched ok' env m) := by
    refine watched_follow_of_respects (Likeness.same_respects env.width) hlib ?_ hnm
    intro e e' v v' he hv hpass
    obtain rfl : v = v' := hv
    obtain rfl := Expr.eq_of_alike he
    exact hok e v hpass
  obtain ⟨v', c₁', hrun', hv, hc⟩ := hruns.eval e e (.same e) c c (.start_same rfl) v c₁ hrun
  obtain rfl : v = v' := hv
  obtain rfl := Context.eq_of_alike hc
  exact hrun'

namespace EvaluatesPassing

/-- What passes one check passes another one that refuses no more. -/
theorem mono (h : EvaluatesPassing ok env e c v c₁)
    (hok : ∀ e e' v, ok e v = true → ok' e' v = true) : EvaluatesPassing ok' env e c v c₁ := by
  obtain ⟨n, hrun⟩ := h
  exact ⟨n, watched_mono (Nat.le_refl n) (fun e v => hok e e v) hrun⟩

/-- **What a watched evaluation answers, the plain one answers.** -/
theorem evaluates (h : EvaluatesPassing ok env e c v c₁) : Evaluates env e c v c₁ := by
  have halways : EvaluatesPassing (fun _ _ => true) env e c v c₁ := h.mono fun _ _ _ _ => rfl
  obtain ⟨n, hrun⟩ := halways
  rw [watched_always] at hrun
  exact ⟨n, hrun⟩

end EvaluatesPassing

end TemplateExpr
