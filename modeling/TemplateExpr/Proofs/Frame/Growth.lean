/-
Evaluation reads the scopes and adds to the pool and the log.

The scopes are restored, what the pool and the log held before stays in front, and what
is added depends on the scopes only: two runs that start in the same scopes add the same
slots and lines, whatever else their contexts hold.

A host brackets its steps the way calls do.  A script in which every opened scope is
closed again restores the scopes it started with, provided that its own definitions go
into a scope of its own.
-/
import TemplateExpr.Proofs.Depth
import TemplateExpr.Proofs.Frame.Restores

namespace TemplateExpr

/-- A context with more slots in its pool and more lines in its log. -/
def Context.grow (c : Context) (new : Array Slot) (lines : Array String) : Context :=
  ⟨c.scopes, ⟨c.pool.slots ++ new⟩, c.calls ++ lines⟩

open EvalM (Leads Restores)

variable {c c' c₁ c₁' : Context}

namespace Context

theorem eq_grow {new : Array Slot} {lines : Array String} (hscopes : c₁.scopes = c.scopes)
    (hpool : c₁.pool.slots = c.pool.slots ++ new) (hcalls : c₁.calls = c.calls ++ lines) :
    c₁ = c.grow new lines := by
  obtain ⟨scopes, ⟨slots⟩, calls⟩ := c₁
  obtain rfl : scopes = c.scopes := hscopes
  obtain rfl : slots = c.pool.slots ++ new := hpool
  obtain rfl : calls = c.calls ++ lines := hcalls
  rfl

/-- What a context grew by can be told from the context it became. -/
theorem grow_inj {new new' : Array Slot} {lines lines' : Array String}
    (h : c.grow new lines = c.grow new' lines') : new = new' ∧ lines = lines' := by
  have hslots : c.pool.slots ++ new = c.pool.slots ++ new' := congrArg (·.pool.slots) h
  have hcalls : c.calls ++ lines = c.calls ++ lines' := congrArg (·.calls) h
  exact ⟨Array.append_right_inj _ |>.mp hslots, Array.append_right_inj _ |>.mp hcalls⟩

/-- Contexts that left their scopes alone and grew alike grew by the same slots and lines. -/
theorem Alike.exists_grow (h : Context.Alike .same c c' c₁ c₁') (hc : c₁.scopes = c.scopes)
    (hc' : c₁'.scopes = c'.scopes) :
    ∃ new lines, c₁ = c.grow new lines ∧ c₁' = c'.grow new lines := by
  obtain ⟨-, lines, new, ⟨hcalls, hcalls'⟩, hpool, hpool'⟩ := h.grown
  exact ⟨new, lines, eq_grow hc hpool hcalls, eq_grow hc' hpool' hcalls'⟩

end Context

/-! ### Expressions -/

section

variable {α : Type} {m : EvalM α} {a : α}

/-- What a run adds, it adds in every context with the same scopes. -/
theorem exists_grow_of_follows (hm : ∀ c c' : Context, EvalM.Follows .same c c' Eq m m)
    (hrestores : EvalM.Restores m) (hrun : m c = some (a, c₁)) :
    ∃ new lines, c₁ = c.grow new lines ∧
      ∀ c', c'.scopes = c.scopes → m c' = some (a, c'.grow new lines) := by
  have hgrow : ∀ c', c'.scopes = c.scopes → ∃ new lines, c₁ = c.grow new lines ∧
      m c' = some (a, c'.grow new lines) := by
    intro c' hc'
    obtain ⟨a', c₁', hrun', rfl, halike⟩ := hm c c' c c' (.start_same hc') a c₁ hrun
    obtain ⟨new, lines, hc₁, rfl⟩ :=
      halike.exists_grow (hrestores.scopes_eq hrun) (hrestores.scopes_eq hrun')
    exact ⟨new, lines, hc₁, hrun'⟩
  obtain ⟨new, lines, hc₁, -⟩ := hgrow c rfl
  refine ⟨new, lines, hc₁, fun c' hc' => ?_⟩
  obtain ⟨new', lines', hc₁', hrun'⟩ := hgrow c' hc'
  obtain ⟨rfl, rfl⟩ := Context.grow_inj (hc₁.symm.trans hc₁')
  exact hrun'

end

/-! ### Scripts

A host opens and closes scopes step by step, so nothing forces it to close what it has
opened.  `Balanced` is the condition under which its steps nest as the scopes of calls
do; then the induction is on how they nest.
-/

/-- A step that neither opens nor closes a scope. -/
def Step.isInner : Step → Bool
  | .push => false
  | .pop => false
  | _ => true

/-- A script run in a scope of its own. -/
def Step.bracketed (inner : List Step) : List Step := .push :: inner ++ [.pop]

/-- Scripts that close every scope they open, and close no other. -/
inductive Balanced : List Step → Prop
  | nil : Balanced []
  | step {s : Step} {rest : List Step} (hs : s.isInner = true) (hrest : Balanced rest) :
      Balanced (s :: rest)
  | scope {inner rest : List Step} (hinner : Balanced inner) (hrest : Balanced rest) :
      Balanced (Step.bracketed inner ++ rest)

section

variable {env : Env} {depth : Nat}

/-- A step inside a scope changes no other. -/
theorem Step.run_leads {step : Step} (hs : step.isInner = true) (s : Scopes) :
    Leads s.Above (step.run env depth) fun _ => s.Above := by
  have hruns := runs_restore env depth
  cases step with
  | eval e => exact (hruns.eval e _).bind fun v => Leads.pure fun _ hs => hs
  | render e width => exact (hruns.render e _ _).bind fun t => Leads.pure fun _ hs => hs
  | define name e =>
      refine (hruns.eval e _).bind fun v => ?_
      exact (Leads.define name v).bind fun _ => Leads.pure fun _ hs => hs
  | find name =>
      refine (Restores.lookup name _).bind fun v? => ?_
      cases v? with
      | none => exact Leads.pure fun _ hs => hs
      | some v => exact Leads.pure fun _ hs => hs
  | push => exact absurd hs (by simp [isInner])
  | pop => exact absurd hs (by simp [isInner])

variable {P Q R : Scopes → Prop} {rest : List Step}

theorem script_leads_cons {step : Step} (hstep : Leads P (step.run env depth) fun _ => Q)
    (hrest : Leads Q (rest.mapM (Step.run env depth)) fun _ => R) :
    Leads P ((step :: rest).mapM (Step.run env depth)) fun _ => R := by
  rw [List.mapM_cons]
  exact hstep.bind fun _ => hrest.bind fun _ => Leads.pure fun _ hs => hs

theorem script_leads_append {steps : List Step}
    (hsteps : Leads P (steps.mapM (Step.run env depth)) fun _ => Q)
    (hrest : Leads Q (rest.mapM (Step.run env depth)) fun _ => R) :
    Leads P ((steps ++ rest).mapM (Step.run env depth)) fun _ => R := by
  rw [List.mapM_append]
  exact hsteps.bind fun _ => hrest.bind fun _ => Leads.pure fun _ hs => hs

/-- A script that stays above the scope it runs in can be run in a scope of its own. -/
theorem script_restores {inner : List Step}
    (hinner : ∀ s : Scopes, Leads s.Above (inner.mapM (Step.run env depth)) fun _ => s.Above) :
    Restores ((Step.bracketed inner).mapM (Step.run env depth)) := by
  refine Restores.of_same fun s => ?_
  have hpush : Leads (· = s) (Step.push.run env depth) fun _ => s.Above :=
    Leads.pushScope.bind fun _ => Leads.pure fun _ hs => hs
  have hpop : Leads s.Above (Step.pop.run env depth) fun _ => (· = s) :=
    Leads.popScope.bind fun _ => Leads.pure fun _ hs => hs
  have hdone : Leads (· = s) (([] : List Step).mapM (Step.run env depth)) fun _ => (· = s) :=
    Leads.pure fun _ hs => hs
  exact script_leads_append (script_leads_cons hpush (hinner s)) (script_leads_cons hpop hdone)

theorem Balanced.leads {steps : List Step} (h : Balanced steps) (s : Scopes) :
    Leads s.Above (steps.mapM (Step.run env depth)) fun _ => s.Above := by
  induction h generalizing s with
  | nil => exact Leads.pure fun _ hs => hs
  | step hs _ ih => exact script_leads_cons (Step.run_leads hs s) (ih s)
  | scope _ _ hinner hrest => exact script_leads_append (script_restores hinner s.Above) (hrest s)

end

/--
**Evaluation reads the scopes and only adds to the pool and the log.**  Whenever an
expression evaluates, or renders into a buffer, the scopes are what they were, the slots
and the lines there were stay in front, and in every other context with the same scopes,
the one just left among them, the answer is the same and the same slots and lines are
added.  A script that closes every scope it opens, run in a scope of its own, restores
the scopes too, also when only the globals were there.
-/
theorem evaluation_only_adds (env : Env) (c c₁ : Context) :
    (∀ e v, Evaluates env e c v c₁ → ∃ new lines, c₁ = c.grow new lines ∧
      ∀ c', c'.scopes = c.scopes → Evaluates env e c' v (c'.grow new lines)) ∧
    (∀ e b t, Renders env e b c t c₁ → ∃ new lines, c₁ = c.grow new lines ∧
      ∀ c', c'.scopes = c.scopes → Renders env e b c' t (c'.grow new lines)) ∧
    ∀ inner depth outcomes, Balanced inner →
      (Step.bracketed inner).mapM (Step.run env depth) c = some (outcomes, c₁) →
      c₁.scopes = c.scopes := by
  refine ⟨?_, ?_, ?_⟩
  · intro e v h
    obtain ⟨n, hrun⟩ := h
    have hfollows : ∀ c c', EvalM.Follows .same c c' Eq (evalTo env n e) (evalTo env n e) :=
      fun c c' => (runs_grow env c c' (Nat.le_refl n)).eval e e (.same e)
    obtain ⟨new, lines, hc₁, hsame⟩ :=
      exists_grow_of_follows hfollows ((runs_restore env n).eval e) hrun
    exact ⟨new, lines, hc₁, fun c' hc' => ⟨n, hsame c' hc'⟩⟩
  · intro e b t h
    obtain ⟨n, hrun⟩ := h
    have hfollows : ∀ c c', EvalM.Follows .same c c' Eq (renderTo env n e b) (renderTo env n e b) :=
      fun c c' => (runs_grow env c c' (Nat.le_refl n)).render (.same e) rfl
    obtain ⟨new, lines, hc₁, hsame⟩ :=
      exists_grow_of_follows hfollows ((runs_restore env n).render e b) hrun
    exact ⟨new, lines, hc₁, fun c' hc' => ⟨n, hsame c' hc'⟩⟩
  · intro inner depth outcomes hinner hrun
    exact (script_restores hinner.leads).scopes_eq hrun

/-- Two functions whose parameter hides a global, one of which calls the other. -/
def shadowing : Env :=
  ⟨.narrow, ⟨#[
    ⟨"pair", .user, .compute [.required "x"]
      (.tuple [.var "x", .call (.const (.of (.function 1))) ⟨[.var "x"], .nil⟩])⟩,
    ⟨"negate", .user, .compute [.required "x"] (.unary .neg (.var "x"))⟩]⟩⟩

/-- The global that the parameters of both hide. -/
def oneGlobal : Dict Value := .ofList [("x", .ofInt 1)]

/-- A call of the first function. -/
def pairOfTwo : Expr := .call (.const (.of (.function 0))) ⟨[.const (.ofInt 2)], .nil⟩

/-- A script that hides the global once more, in a scope inside the one it runs in. -/
def hideAgain : List Step :=
  .define "x" pairOfTwo :: (Step.bracketed [.define "x" (.const .empty)] ++ [.eval (.var "x")])

/-- The calls add five slots each time, and the global keeps its value throughout. -/
theorem evaluation_only_adds_shadowed :
    ∃ v c₁ c₂ t c₃ outcomes c₄,
      Evaluates shadowing pairOfTwo (.ofGlobals oneGlobal) v c₁ ∧
      Evaluates shadowing pairOfTwo c₁ v c₂ ∧
      Renders shadowing pairOfTwo (.narrow "") (.ofGlobals oneGlobal) t c₃ ∧
      (Step.bracketed hideAgain).mapM (Step.run shadowing 6) (.ofGlobals oneGlobal)
        = some (outcomes, c₄) ∧
      c₁.pool.size = 5 ∧ c₂.pool.size = 10 ∧ c₂.calls = #["pair", "negate", "pair", "negate"] ∧
      c₁.scopes = ⟨oneGlobal, []⟩ ∧ c₃.scopes = ⟨oneGlobal, []⟩ ∧
      c₄.scopes = ⟨oneGlobal, []⟩ := by
  have heval : (evalTo shadowing 6 pairOfTwo (.ofGlobals oneGlobal)).map
      (fun r => (r.2.pool.size, r.2.calls)) = some (5, #["pair", "negate"]) := by decide +kernel
  have hrender : (renderTo shadowing 6 pairOfTwo (.narrow "")
      (.ofGlobals oneGlobal)).isSome = true := by decide +kernel
  have hscript : ((Step.bracketed hideAgain).mapM (Step.run shadowing 6)
      (.ofGlobals oneGlobal)).isSome = true := by decide +kernel
  obtain ⟨⟨v, c₁⟩, heval, hsize⟩ := Option.map_eq_some_iff.mp heval
  obtain ⟨⟨t, c₃⟩, hrender⟩ := Option.isSome_iff_exists.mp hrender
  obtain ⟨⟨outcomes, c₄⟩, hscript⟩ := Option.isSome_iff_exists.mp hscript
  obtain ⟨new, lines, rfl, hagain⟩ :=
    (evaluation_only_adds shadowing _ c₁).1 pairOfTwo v ⟨6, heval⟩
  obtain ⟨new', lines', rfl, -⟩ :=
    (evaluation_only_adds shadowing _ c₃).2.1 pairOfTwo (.narrow "") t ⟨6, hrender⟩
  have hbalanced : Balanced hideAgain := .step rfl (.scope (.step rfl .nil) (.step rfl .nil))
  have hc₄ := (evaluation_only_adds shadowing _ c₄).2.2 hideAgain 6 outcomes hbalanced hscript
  obtain ⟨hnew, hlines⟩ := Prod.mk.inj hsize
  have hslots : new.size = 5 := by
    simpa [Context.grow, Context.ofGlobals, Pool.size, Pool.empty] using hnew
  obtain rfl : lines = #["pair", "negate"] := by
    simpa [Context.grow, Context.ofGlobals] using hlines
  refine ⟨v, _, _, t, _, outcomes, c₄, ⟨6, heval⟩, hagain _ rfl, ⟨6, hrender⟩, hscript, hnew, ?_,
    rfl, rfl, rfl, hc₄⟩
  simp [Context.grow, Context.ofGlobals, Pool.size, Pool.empty, hslots]

end TemplateExpr
