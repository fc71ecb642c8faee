/-
Rendering agrees with evaluating.

Rendering an expression into an empty buffer writes the text of the expression's value,
calls the same functions and leaves the same scopes, with one exception by design: a
call that is rendered does not ask where its function comes from, so a function that
may not be called for its value writes where its value would be empty.  Where the
outermost call resolves to no such function, the two agree.

The pools differ in one case only.  A function that writes is given a buffer of its own
when its value is asked for, and the text collected there takes a slot; when it is
rendered it writes to the caller's buffer and no such slot is taken.  The two buffers
may have different widths, which is why it matters that a renderer adds the same code
points to every buffer.
-/
import TemplateExpr.Proofs.Depth
import TemplateExpr.Proofs.Render.Written

namespace TemplateExpr

/-! ### The outermost call

Only the outermost call of an expression is streamed.  It may stand inside expressions
without a guard, which pass rendering on, but not inside an operator or an argument,
where a value is needed.
-/

/-- The outermost call of an expression, looked for through unguarded expressions. -/
def Expr.outerCall? : Expr → Option (Expr × CallArgs Expr)
  | .call callee args => some (callee, args)
  | .full (some body) none => body.outerCall?
  | _ => none

/-- The function that the outermost call of an expression resolves to in a context. -/
def OuterFunction (env : Env) (e : Expr) (c : Context) (d : FunctionDef) : Prop :=
  ∃ callee args f c₁, e.outerCall? = some (callee, args) ∧ Evaluates env callee c f c₁ ∧
    env.library.resolve f = some d

/-- Whether the outermost call of an expression streams a function that writes. -/
def StreamsDirectly (env : Env) (e : Expr) (c : Context) : Prop :=
  ∃ d, OuterFunction env e c d ∧ d.emits = true

variable {env : Env} {sub : Evaluator} {e : Expr} {c c₁ : Context} {v : Value}

section

variable {callee : Expr} {args : CallArgs Expr} {f : Value} {d : FunctionDef}

/-- A call resolves to what the value of its callee resolves to. -/
theorem outerFunction_call_iff (hcallee : Evaluates env callee c f c₁) :
    OuterFunction env (.call callee args) c d ↔ env.library.resolve f = some d := by
  constructor
  · intro h
    obtain ⟨callee', args', f', c₁', hcall, hcallee', hd⟩ := h
    obtain ⟨rfl, rfl⟩ := Prod.mk.inj (Option.some.inj hcall)
    obtain ⟨rfl, -⟩ := hcallee.unique hcallee'
    exact hd
  · exact fun hd => ⟨callee, args, f, c₁, rfl, hcallee, hd⟩

/-- A call streams exactly if it resolves to a function that writes. -/
theorem streamsDirectly_call_iff (hcallee : Evaluates env callee c f c₁) :
    StreamsDirectly env (.call callee args) c ↔
      ∃ d, env.library.resolve f = some d ∧ d.emits = true :=
  exists_congr fun _ => and_congr_left fun _ => outerFunction_call_iff hcallee

end

/-! ### Calls

A function is asked for its value or for its output.  A function that writes is asked
for its value by giving it a buffer of its own, so its output is there in both cases,
and only the slot for the collected text makes a difference.
-/

theorem Text.empty_write (v : Value) (w : CharWidth) : (Text.empty w).write v = v.toText w := by
  rw [Text.write_eq]
  exact Text.ext_chars (by simp) (by simp [Value.chars_toText])

/-- A function that does not write leaves the same context either way. -/
theorem FunctionDef.stream_of_call {d : FunctionDef} (hd : d.emits = false) {args : CallArgs Expr}
    (hcall : d.call env sub args c = some (v, c₁)) (w : CharWidth) :
    d.stream sub args (.empty w) c = some (v.toText w, c₁) := by
  obtain ⟨tag, origin, behaviour⟩ := d
  obtain ⟨u, c', hnote, hrest⟩ := EvalM.bind_eq_some_iff.mp hcall
  refine EvalM.bind_eq_some_iff.mpr ⟨u, c', hnote, ?_⟩
  cases behaviour with
  | answer a =>
      obtain ⟨rfl, rfl⟩ := Prod.mk.inj (Option.some.inj hrest)
      show some ((Text.empty w).write a, c') = _
      rw [Text.empty_write]
  | compute formals body =>
      refine EvalM.bind_eq_some_iff.mpr ⟨v, c₁, hrest, ?_⟩
      show some ((Text.empty w).write v, c₁) = _
      rw [Text.empty_write]
  | emit formals writes => exact absurd hd (by simp [emits])

/-- A function that writes needs one slot more when its value is asked for. -/
theorem FunctionDef.stream_of_call_emits {write : Expr → EvalM (List Value)}
    (hsub : ∀ e, Writes (sub.render e) (write e)) {d : FunctionDef} (hd : d.emits = true)
    {args : CallArgs Expr} (hcall : d.call env sub args c = some (v, c₁)) (w : CharWidth) :
    ∃ c₂ t, d.stream sub args (.empty w) c = some (v.toText w, c₂) ∧
      c₁ = { c₂ with pool := c₂.pool.keep (.text t) } := by
  obtain ⟨tag, origin, behaviour⟩ := d
  obtain ⟨u, c', hnote, hrest⟩ := EvalM.bind_eq_some_iff.mp hcall
  cases behaviour with
  | answer a => exact absurd hd (by simp [emits])
  | compute formals body => exact absurd hd (by simp [emits])
  | emit formals writes =>
      have hwrites := emit_writes hsub formals writes args
      obtain ⟨t, c₂, hemit, hcreate⟩ := EvalM.bind_eq_some_iff.mp hrest
      obtain ⟨rfl, rfl⟩ := Prod.mk.inj (Option.some.inj hcreate)
      rw [hwrites] at hemit
      obtain ⟨vs, hvs, rfl⟩ := EvalM.map_eq_some_iff.mp hemit
      refine ⟨c₂, vs.foldl Text.write (.empty env.width), ?_, rfl⟩
      refine EvalM.bind_eq_some_iff.mpr ⟨u, c', hnote, ?_⟩
      show emit sub formals writes args (.empty w) c' = _
      rw [hwrites]
      refine EvalM.map_eq_some_iff.mpr ⟨vs, hvs, ?_⟩
      rw [Text.foldl_write_eq, Text.foldl_write_eq]
      exact Text.ext_chars (by simp) (by simp [Value.toText, Value.of])

theorem Library.asBuiltin?_of_resolve {l : Library} {f : Value} {d : FunctionDef}
    (h : l.resolve f = some d) : f.asBuiltin? = none := by
  unfold Library.resolve at h
  unfold Value.asBuiltin?
  cases hdata : f.data with
  | builtin b =>
      rw [hdata] at h
      exact absurd h (by simp)
  | _ => rfl

/-! ### Expressions -/

/-- Evaluated contexts against rendered ones: the same, but for the text of a streamed function. -/
structure Agree (streamed : Prop) (c₁ c₂ : Context) : Prop where
  direct : streamed → ∃ t, c₁ = { c₂ with pool := c₂.pool.keep (.text t) }
  same : ¬streamed → c₁ = c₂

section

variable {n : Nat} {callee : Expr} {args : CallArgs Expr} {f : Value} {d : FunctionDef}
  {c' : Context}

/-- What resolves to a function that may be called for its value is called. -/
theorem dispatch_of_resolve (hd : env.library.resolve f = some d)
    (hcallable : d.origin.callable = true) : dispatch env sub f args = d.call env sub args := by
  -- A built-in is looked for first, but what resolves to a function is none.
  unfold dispatch
  rw [Library.asBuiltin?_of_resolve hd, hd]
  dsimp only
  rw [if_pos hcallable]

theorem renderTo_call (hcallee : evalTo env n callee c = some (f, c'))
    (hd : env.library.resolve f = some d) (b : Text) :
    renderTo env (n + 1) (.call callee args) b c =
      d.stream ⟨evalTo env n, renderTo env n⟩ args b c' := by
  refine (EvalM.bind_run hcallee).trans ?_
  rw [hd]

/-- What resolves to no function has its value written. -/
theorem renderTo_call_unresolved (hcallee : evalTo env n callee c = some (f, c'))
    (hd : env.library.resolve f = none)
    (hrun : dispatch env ⟨evalTo env n, renderTo env n⟩ f args c' = some (v, c₁)) (w : CharWidth) :
    renderTo env (n + 1) (.call callee args) (.empty w) c = some (v.toText w, c₁) := by
  refine (EvalM.bind_run hcallee).trans ?_
  rw [hd, ← Text.empty_write]
  exact EvalM.bind_run hrun

theorem renderTo_call_of_evalTo (hrun : evalTo env (n + 1) (.call callee args) c = some (v, c₁))
    (hcallable : ∀ d, OuterFunction env (.call callee args) c d → d.origin.callable = true)
    (w : CharWidth) :
    ∃ c₂, renderTo env (n + 1) (.call callee args) (.empty w) c = some (v.toText w, c₂) ∧
      Agree (StreamsDirectly env (.call callee args) c) c₁ c₂ := by
  obtain ⟨f, c', hcallee, hdispatch⟩ := EvalM.bind_eq_some_iff.mp hrun
  rw [streamsDirectly_call_iff ⟨n, hcallee⟩]
  cases hd : env.library.resolve f with
  | none =>
      refine ⟨c₁, renderTo_call_unresolved hcallee hd hdispatch w, ?_, fun _ => rfl⟩
      rintro ⟨d, ⟨⟩, -⟩
  | some d =>
      rw [dispatch_of_resolve hd (hcallable d ((outerFunction_call_iff ⟨n, hcallee⟩).mpr hd))]
        at hdispatch
      rw [renderTo_call hcallee hd]
      cases hemits : d.emits with
      | true =>
          obtain ⟨c₂, t, hstream, hc₂⟩ :=
            FunctionDef.stream_of_call_emits (renderTo_writes env n) hemits hdispatch w
          exact ⟨c₂, hstream, fun _ => ⟨t, hc₂⟩, fun hn => absurd ⟨d, rfl, hemits⟩ hn⟩
      | false =>
          refine ⟨c₁, FunctionDef.stream_of_call hemits hdispatch w, ?_, fun _ => rfl⟩
          rintro ⟨_, ⟨⟩, hemits'⟩
          exact absurd (hemits.symm.trans hemits') (by simp)

end

theorem renderTo_of_evalTo {n : Nat} (hrun : evalTo env n e c = some (v, c₁))
    (hcallable : ∀ d, OuterFunction env e c d → d.origin.callable = true) (w : CharWidth) :
    ∃ c₂, renderTo env n e (.empty w) c = some (v.toText w, c₂) ∧
      Agree (StreamsDirectly env e c) c₁ c₂ := by
  induction n generalizing e with
  | zero => exact absurd hrun (by simp [evalTo, EvalM.outOfDepth])
  | succ n ih =>
      -- Without an outermost call the value is evaluated and written.
      have hwrite : e.outerCall? = none →
          renderTo env (n + 1) e (.empty w) =
            (do pure ((Text.empty w).write (← evalTo env (n + 1) e))) →
          ∃ c₂, renderTo env (n + 1) e (.empty w) c = some (v.toText w, c₂) ∧
            Agree (StreamsDirectly env e c) c₁ c₂ := by
        intro hnone heq
        refine ⟨c₁, ?_, ?_, fun _ => rfl⟩
        · rw [heq, ← Text.empty_write]
          exact EvalM.bind_eq_some_iff.mpr ⟨v, c₁, hrun, rfl⟩
        · intro hstreams
          obtain ⟨d, ⟨callee, args, f, c', hsome, -⟩, -⟩ := hstreams
          exact absurd (hnone.symm.trans hsome) (by simp)
      cases e with
      | call callee args => exact renderTo_call_of_evalTo hrun hcallable w
      | full body guard =>
          cases guard with
          | some guard => cases body <;> exact hwrite rfl rfl
          | none =>
              cases body with
              | some body => exact ih hrun hcallable
              | none =>
                  refine hwrite rfl ?_
                  show pure (Text.empty w) = pure ((Text.empty w).write .empty)
                  rw [Text.empty_write]
                  cases w <;> rfl
      | _ => exact hwrite rfl rfl

/--
**Rendering into an empty buffer writes the text of the value, calls the same functions
in the same order and leaves the same scopes.**  The pool is as large as after the
evaluation, or one slot smaller where a function that writes was streamed.
-/
theorem render_agrees (h : Evaluates env e c v c₁)
    (horigin : ∀ d, OuterFunction env e c d → d.origin = .global ∨ d.origin = .user)
    (w : CharWidth) :
    ∃ c₂, Renders env e (.empty w) c (v.toText w) c₂ ∧ c₂.calls = c₁.calls ∧ c₂.scopes = c₁.scopes ∧
      (StreamsDirectly env e c → c₁.pool.size = c₂.pool.size + 1) ∧
      (¬StreamsDirectly env e c → c₁.pool.size = c₂.pool.size) := by
  obtain ⟨n, hrun⟩ := h
  have hcallable : ∀ d, OuterFunction env e c d → d.origin.callable = true := by
    intro d hd
    rcases horigin d hd with ho | ho <;> rw [ho] <;> rfl
  obtain ⟨c₂, hrender, hagree⟩ := renderTo_of_evalTo hrun hcallable w
  refine ⟨c₂, ⟨n, hrender⟩, ?_⟩
  by_cases hstream : StreamsDirectly env e c
  · obtain ⟨t, rfl⟩ := hagree.direct hstream
    refine ⟨rfl, rfl, fun _ => ?_, fun hn => absurd hstream hn⟩
    exact Pool.size_keep c₂.pool (.text t)
  · obtain rfl := hagree.same hstream
    exact ⟨rfl, rfl, fun hs => absurd hs hstream, fun _ => rfl⟩

/-- Wide target texts, and one function, which writes a narrow greeting. -/
def greeter : Env := ⟨.wide, ⟨#[⟨"greet", .user, .emit [] [.const (.ofText (.narrow "hi"))]⟩]⟩⟩

/-- A call of the first function. -/
def firstCall : Expr := .full (some (.call (.const (.of (.function 0))) .none)) none

theorem render_agrees_greeter :
    ∃ c₁ c₂, Evaluates greeter firstCall (.ofGlobals .nil) (.ofText (.wide ['h', 'i'])) c₁ ∧
      Renders greeter firstCall (.empty .narrow) (.ofGlobals .nil) (.narrow "hi") c₂ ∧
      c₂.calls = #["greet"] ∧ c₁.pool.size = c₂.pool.size + 1 := by
  have hrun : ∃ c₁,
      evalTo greeter 3 firstCall (.ofGlobals .nil) = some (.ofText (.wide ['h', 'i']), c₁) ∧
        c₁.calls = #["greet"] := ⟨_, rfl, rfl⟩
  have hcallee : Evaluates greeter (.const (.of (.function 0))) (.ofGlobals .nil)
      (.of (.function 0)) (.ofGlobals .nil) := ⟨1, rfl⟩
  have horigin : ∀ d, OuterFunction greeter firstCall (.ofGlobals .nil) d →
      d.origin = .global ∨ d.origin = .user := by
    intro d hd
    have hcall :
        OuterFunction greeter (.call (.const (.of (.function 0))) .none) (.ofGlobals .nil) d := hd
    obtain rfl := Option.some.inj ((outerFunction_call_iff hcallee).mp hcall)
    exact .inr rfl
  obtain ⟨c₁, hc₁, hcalls⟩ := hrun
  obtain ⟨c₂, hrender, hcalls', -, hpool, -⟩ := render_agrees ⟨3, hc₁⟩ horigin .narrow
  refine ⟨c₁, c₂, ⟨3, hc₁⟩, hrender, hcalls'.trans hcalls, hpool ?_⟩
  exact ⟨_, ⟨_, _, _, _, rfl, hcallee, rfl⟩, rfl⟩

end TemplateExpr
