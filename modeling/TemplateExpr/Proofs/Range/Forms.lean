/-
The ways a range is called.

A call supplies arguments for some of the parameters, each by keyword or by position.
Where the window of the positional arguments holds exactly the parameters that are
supplied by position, the call binds exactly what it supplies.  A call of `range` that
supplies its stop comes to that however it divides its arguments: its window is anchored
at the stop, or at the first parameter left once the stop is named.
-/
import TemplateExpr.Proofs.Binding.Defaults
import TemplateExpr.Proofs.Calls

namespace TemplateExpr

/-! ### Calls that supply what is expected

Which argument reaches a parameter is the keyword of its name, or else what stands at its
place in the window.  What a call supplies is divided between the two by name, so the
argument for a parameter is found in one list, however the list is divided.
-/

section

variable {ε : Type} {formals : List Formal} {args : CallArgs ε} {supply : List (String × ε)}
  {named : String → Bool} {f : Formal}

/--
A call supplies arguments for the parameters of some names, for those that are `named` by
keyword and for the rest by position, in the same order.
-/
structure Supplies (formals : List Formal) (args : CallArgs ε) (supply : List (String × ε))
    (named : String → Bool) : Prop where
  keyword : ∀ f ∈ formals,
    Dict.get? f.name args.keyword = if named f.name then supply.lookup f.name else none
  positional : args.positional = (supply.filter fun e => !named e.1).map (·.2)

namespace Supplies

variable (h : Supplies formals args supply named)
  (hwindow : (Window.ofCount formals args.keyword args.positional.length).inside.map (·.name)
    = (supply.filter fun e => !named e.1).map (·.1))

include h

/-- A parameter is free unless it is supplied by keyword. -/
theorem isFree (hf : f ∈ formals) (hmark : f.isCatchAll = false) :
    f.isFree args.keyword = !(named f.name && (supply.lookup f.name).isSome) := by
  unfold Formal.isFree Dict.contains
  rw [hmark, h.keyword f hf]
  cases named f.name <;> rfl

include hwindow

/-- In the window stands what is supplied by position. -/
theorem byPlace_eq : args.byPlace formals = supply.filter fun e => !named e.1 :=
  (List.zip_of_prod hwindow.symm h.positional.symm).symm

theorem argument?_eq (hf : f ∈ formals) : args.argument? formals f = supply.lookup f.name := by
  rw [CallArgs.argument?, h.keyword f hf, h.byPlace_eq hwindow,
    lookup_filter_key (!named ·)]
  cases named f.name <;> simp

/-- The parameters without defaults are bound to exactly what the call supplies for them. -/
theorem get?_args (hd : (formals.map (·.name)).Nodup) (hf : f ∈ formals)
    (hmark : f.isCatchAll = false) (hfallback : f.fallback = none) :
    Dict.get? f.name (bind formals args).args = (supply.lookup f.name).map .given := by
  rw [get?_args_eq hd hf hmark, h.argument?_eq hwindow hf]
  simp [Formal.default?, hfallback]

end Supplies

end

/-! ### Ranges

A start comes first if there is one, but a single argument is the stop.  The window does
this: it is anchored at the stop, the first mandatory parameter, and a second argument
widens it backward.
-/

/-- What a call of `range` supplies, in the order of the parameters. -/
def rangeSupply (start? : Option Expr) (stop : Expr) (step? : Option Expr) : List (String × Expr) :=
  start?.toList.map ("start", ·) ++ ("stop", stop) :: step?.toList.map ("step", ·)

/--
A call of `range` that supplies a stop, and maybe a start and a step, some by keyword and
the rest by position.  A step comes by position only after a start.
-/
structure RangeForm (args : CallArgs Expr) (start? : Option Expr) (stop : Expr)
    (step? : Option Expr) (named : String → Bool) : Prop extends
    Supplies rangeFormals args (rangeSupply start? stop step?) named where
  step : step?.isSome = true → start?.isSome = true ∨ named "step" = true

variable {args : CallArgs Expr} {start? step? : Option Expr} {stop : Expr} {named : String → Bool}

theorem lookup_rangeSupply (start? : Option Expr) (stop : Expr) (step? : Option Expr) :
    (rangeSupply start? stop step?).lookup "start" = start? ∧
      (rangeSupply start? stop step?).lookup "stop" = some stop ∧
      (rangeSupply start? stop step?).lookup "step" = step? := by
  cases start? <;> cases step? <;> exact ⟨rfl, rfl, rfl⟩

/-- No parameter of a range is a marker or has a default. -/
theorem rangeFormals_plain : ∀ f ∈ rangeFormals, f.isCatchAll = false ∧ f.fallback = none := by
  simp [rangeFormals, Formal.optional, Formal.required, Formal.isCatchAll]

/-- A parameter of a range is free unless the call supplies it and names it. -/
theorem RangeForm.isFree (h : RangeForm args start? stop step? named) :
    (Formal.optional "start").isFree args.keyword = !(named "start" && start?.isSome) ∧
      (Formal.required "stop").isFree args.keyword = !named "stop" ∧
      (Formal.optional "step").isFree args.keyword = !(named "step" && step?.isSome) := by
  obtain ⟨hstart, hstop, hstep⟩ := lookup_rangeSupply start? stop step?
  refine ⟨?_, ?_, ?_⟩
  · rw [← hstart]
    exact h.toSupplies.isFree (by simp [rangeFormals]) rfl
  · rw [← Bool.and_true (named "stop"), ← Option.isSome_some (a := stop), ← hstop]
    exact h.toSupplies.isFree (f := .required "stop") (by simp [rangeFormals]) rfl
  · rw [← hstep]
    exact h.toSupplies.isFree (by simp [rangeFormals]) rfl

/-- The window of a range holds what is supplied by position, and what it leaves is optional. -/
theorem RangeForm.window (h : RangeForm args start? stop step? named) :
    let w := Window.ofCount rangeFormals args.keyword args.positional.length
    w.inside.map (·.name) = ((rangeSupply start? stop step?).filter fun e => !named e.1).map (·.1) ∧
      w.outside.filter (·.mandatory) = [] := by
  obtain ⟨hstart, hstop, hstep⟩ := h.isFree
  have hshut : ¬Window.staysShut rangeFormals args.keyword = true := by
    intro hshut
    obtain ⟨-, hmarker⟩ := (Bool.and_eq_true _ _).mp hshut
    obtain ⟨f, hf, hmark⟩ := (Option.any_eq_true _ _).mp hmarker
    rw [(rangeFormals_plain f (List.mem_of_find?_eq_some hf)).1] at hmark
    exact absurd hmark (by simp)
  have hordered := h.step
  intro w
  rw [Window.inside_ofCount, Window.outside_ofCount]
  unfold Window.start
  rw [Window.count_of_not_staysShut hshut, h.positional]
  unfold Window.free
  simp only [rangeFormals, List.filter_cons, List.filter_nil, hstart, hstop, hstep]
  -- Which parameters are supplied, and which are named, leaves finitely many windows to compute.
  revert hordered
  cases start? <;> cases step? <;>
    simp only [rangeSupply, Formal.optional, Formal.required, Option.toList, List.map,
      List.nil_append, List.cons_append, List.filter_cons, List.filter_nil] <;>
    generalize named "start" = a <;> generalize named "stop" = b <;> generalize named "step" = c <;>
    intro hordered <;> cases a <;> cases b <;> cases c <;>
    first
    | exact ⟨rfl, rfl⟩
    | exact absurd (hordered rfl) (by simp)

/-- However a call of `range` divides its arguments, it binds and evaluates them in one order. -/
theorem RangeForm.operands (h : RangeForm args start? stop step? named) :
    (bind rangeFormals args).succeeded = true ∧
      rangeOperands args = [start?.getD (.const .empty), stop, step?.getD (.const (.ofInt 1))] := by
  obtain ⟨hinside, hmandatory⟩ := h.window
  obtain ⟨hstart, hstop, hstep⟩ := lookup_rangeSupply start? stop step?
  have hget : ∀ name ∈ rangeFormals.map (·.name), Dict.get? name (bind rangeFormals args).args
      = ((rangeSupply start? stop step?).lookup name).map .given := by
    intro name hname
    obtain ⟨f, hf, rfl⟩ := List.mem_map.mp hname
    obtain ⟨hmark, hfallback⟩ := rangeFormals_plain f hf
    exact h.get?_args hinside (by decide) hf hmark hfallback
  refine ⟨?_, ?_⟩
  · have hmissing : (bind rangeFormals args).missing = [] :=
      congrArg (List.map Formal.name) hmandatory
    unfold Binding.succeeded
    rw [hmissing]
    rfl
  · unfold rangeOperands Binding.operand
    dsimp only
    rw [hget "start" (by decide), hget "stop" (by decide), hget "step" (by decide), hstart,
      hstop, hstep]
    cases start? <;> cases step? <;> rfl

/-- All three by position. -/
theorem RangeForm.of_positional (start stop step : Expr) :
    RangeForm ⟨[start, stop, step], .nil⟩ (some start) stop (some step) fun _ => false where
  keyword := fun _ _ => rfl
  positional := rfl
  step := fun _ => .inl rfl

/-- A call of `range` that supplies no stop does not bind. -/
theorem range_unbound (hpositional : args.positional = [])
    (hstop : Dict.get? "stop" args.keyword = none) :
    (bind rangeFormals args).succeeded = false := by
  have hfree : (Formal.required "stop") ∈ Window.free rangeFormals args.keyword := by
    refine List.mem_filter.mpr ⟨by simp [rangeFormals], ?_⟩
    simp [Formal.isFree, Formal.isCatchAll, Formal.required, Dict.contains, hstop]
  have hmissing : "stop" ∈ (bind rangeFormals args).missing := by
    show "stop" ∈ ((Window.ofCount rangeFormals args.keyword args.positional.length).outside.filter
      (·.mandatory)).map (·.name)
    rw [hpositional]
    exact List.mem_map.mpr ⟨.required "stop", List.mem_filter.mpr ⟨hfree, rfl⟩, rfl⟩
  unfold Binding.succeeded
  exact List.isEmpty_eq_false_iff.mpr (List.ne_nil_of_mem hmissing)

end TemplateExpr
