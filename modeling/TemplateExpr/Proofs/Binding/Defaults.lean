/-
When a default stands in for an argument.

One expects a default to make an argument dispensable, be the parameter mandatory or not.
It does so for optional parameters only.  A mandatory one that no argument reaches is
missing, whatever default it declares, and its default is never looked at.  These are the
overlooked parameters, and a call has none exactly if every default does what is expected.

An argument reaches a parameter by keyword, or by position inside the window.  Inside and
outside the window are different parameters with different names, so what a name is bound
to can be read off from where its parameter ended up.
-/
import TemplateExpr.Proofs.Binding.Leftover

namespace TemplateExpr

open Window

variable {ε : Type}

/-- The default a parameter declares, be it mandatory or not; an empty one is none. -/
def Formal.declared? (f : Formal) : Option Value := f.fallback.filter fun v => !v.isEmpty

/-- The positional arguments by the names of the parameters inside the window. -/
def CallArgs.byPlace (call : CallArgs ε) (formals : List Formal) : List (String × ε) :=
  ((ofCount formals call.keyword call.positional.length).inside.map (·.name)).zip call.positional

/-- The argument of a call for a parameter: by keyword, or else by its place in the window. -/
def CallArgs.argument? (call : CallArgs ε) (formals : List Formal) (f : Formal) : Option ε :=
  (Dict.get? f.name call.keyword).or ((call.byPlace formals).lookup f.name)

/-- Whether a parameter is bound. -/
def Binding.binds (b : Binding ε) (f : Formal) : Bool := Dict.contains f.name b.args

/-- The mandatory parameters that a binding leaves unbound. -/
def Binding.unmet (b : Binding ε) (formals : List Formal) : List Formal :=
  formals.filter fun f => !f.isCatchAll && f.mandatory && !b.binds f

/-- The mandatory parameters no argument reaches although they declare a default. -/
def CallArgs.overlooked (call : CallArgs ε) (formals : List Formal) : List Formal :=
  formals.filter fun f =>
    !f.isCatchAll && f.mandatory && f.declared?.isSome && (call.argument? formals f).isNone

theorem Formal.default?_of_mandatory {f : Formal} (h : f.mandatory = true) : f.default? = none := by
  simp [default?, h]

theorem Formal.default?_of_optional {f : Formal} (h : f.mandatory = false) :
    f.default? = f.declared? := by
  simp [default?, declared?, h]

variable {formals : List Formal} {call : CallArgs ε}

/-! ### Where a parameter ends up

What keywords leave is cut into the window and the rest, and with distinct names no
parameter is in both.  An argument reaches a parameter inside the window and none
outside of it, which is why the two are told apart before anything is said of bindings.
-/

theorem mem_free_iff {f : Formal} :
    f ∈ free formals call.keyword ↔
      f ∈ formals ∧ f.isCatchAll = false ∧ Dict.get? f.name call.keyword = none := by
  refine ⟨isFree_of_mem_free, ?_⟩
  intro h
  obtain ⟨hmem, hmark, hkey⟩ := h
  exact List.mem_filter.mpr ⟨hmem, by simp [Formal.isFree, Dict.contains, hmark, hkey]⟩

theorem mem_inside_or_outside {f : Formal} (hf : f ∈ free formals call.keyword) :
    f ∈ (ofCount formals call.keyword call.positional.length).inside ∨
      f ∈ (ofCount formals call.keyword call.positional.length).outside := by
  rw [← List.mem_append]
  exact (perm_inside_outside formals call.keyword call.positional.length).mem_iff.mpr hf

theorem mem_free_of_outside {f : Formal}
    (hf : f ∈ (ofCount formals call.keyword call.positional.length).outside) :
    f ∈ free formals call.keyword :=
  (perm_inside_outside formals call.keyword call.positional.length).mem_iff.mp
    (List.mem_append_right _ hf)

theorem keys_byPlace : (call.byPlace formals).map (·.1)
    = (ofCount formals call.keyword call.positional.length).inside.map (·.name) := by
  refine List.map_fst_zip ?_
  rw [List.length_map, length_inside_ofCount]
  exact count_le _ _ _

section

variable (hd : (formals.map (·.name)).Nodup)

include hd

/-- The names inside the window are distinct, and none of them occurs outside. -/
theorem nodup_inside_outside (call : CallArgs ε) :
    ((call.byPlace formals).map (·.1) ++
      (ofCount formals call.keyword call.positional.length).outside.map (·.name)).Nodup := by
  have hperm := perm_inside_outside formals call.keyword call.positional.length
  rw [keys_byPlace, ← List.map_append]
  exact ((hperm.map (·.name)).nodup_iff).mpr (nodup_free hd)

/-- Inside the window a parameter gets the argument at its place. -/
theorem argument?_of_inside {f : Formal} {i : Nat}
    (hi : (ofCount formals call.keyword call.positional.length).inside[i]? = some f) :
    call.argument? formals f = call.positional[i]? := by
  obtain ⟨hlt, hfree⟩ := getElem?_inside.mp hi
  have hkey := (mem_free_iff.mp (List.mem_of_getElem? hfree)).2.2
  have hpositional : i < call.positional.length := Nat.lt_of_lt_of_le hlt (count_le _ _ _)
  have hkeys := (List.nodup_append.mp (nodup_inside_outside hd call)).1
  have hplace : (call.byPlace formals).lookup f.name = some call.positional[i] := by
    rw [lookup_eq_some_iff_mem hkeys, List.mem_iff_getElem?]
    exact ⟨i, List.getElem?_zip_eq_some.mpr ⟨by simp [hi], by simp [hpositional]⟩⟩
  simp [CallArgs.argument?, hkey, hplace, hpositional]

/-- Outside the window no argument reaches a parameter. -/
theorem argument?_of_outside {f : Formal}
    (hf : f ∈ (ofCount formals call.keyword call.positional.length).outside) :
    call.argument? formals f = none := by
  have hkey := (mem_free_iff.mp (mem_free_of_outside hf)).2.2
  have hplace : (call.byPlace formals).lookup f.name = none :=
    lookup_eq_none_iff_notMem.mpr fun hin =>
      (List.nodup_append.mp (nodup_inside_outside hd call)).2.2 _ hin _ (List.mem_map_of_mem hf) rfl
  simp [CallArgs.argument?, hkey, hplace]

/-! ### What a parameter is bound to -/

/-- Outside the window a parameter is bound to its default, if it takes one. -/
theorem get?_args_of_outside {f : Formal}
    (hf : f ∈ (ofCount formals call.keyword call.positional.length).outside) :
    Dict.get? f.name (bind formals call).args = f.default?.map .fallback := by
  have hfree := mem_free_of_outside hf
  refine Option.ext fun x => ?_
  rw [Option.map_eq_some_iff]
  constructor
  · intro hx
    rcases x with e | v
    · obtain ⟨i, hi⟩ := List.mem_iff_getElem?.mp (mem_inside_of_get?_args hd hfree hx)
      have hpositional := Nat.lt_of_lt_of_le (getElem?_inside.mp hi).1 (count_le _ _ _)
      have hno := argument?_of_outside hd hf
      rw [argument?_of_inside hd hi] at hno
      exact absurd hpositional (by simpa using hno)
    · generalize hname : f.name = name at hx
      cases (get?_args_iff hd).mp hx with
      | @fallback j g _ hj hg hoptional hv hne =>
          have hgf : g = f :=
            List.inj_on_of_nodup_map (nodup_free hd) (List.mem_of_getElem? hg) hfree hname.symm
          subst hgf
          exact ⟨v, by simp [Formal.default?_of_optional hoptional, Formal.declared?, hv, hne], rfl⟩
  · intro hx
    obtain ⟨v, hv, rfl⟩ := hx
    obtain ⟨j, hj, hget⟩ := mem_outside.mp hf
    rcases hoptional : f.mandatory with _ | _
    · rw [Formal.default?_of_optional hoptional, Formal.declared?, Option.filter_eq_some_iff,
        Bool.not_eq_true'] at hv
      exact (get?_args_iff hd).mpr (.fallback hj hget hoptional hv.1 hv.2)
    · simp [Formal.default?_of_mandatory hoptional] at hv

/-- A parameter is bound to its argument, or else to the default it takes. -/
theorem get?_args_eq {f : Formal} (hf : f ∈ formals) (hmark : f.isCatchAll = false) :
    Dict.get? f.name (bind formals call).args
      = ((call.argument? formals f).map .given).or (f.default?.map .fallback) := by
  rcases hkey : Dict.get? f.name call.keyword with _ | e
  · rcases mem_inside_or_outside (mem_free_iff.mpr ⟨hf, hmark, hkey⟩) with hin | hout
    · obtain ⟨i, hi⟩ := List.mem_iff_getElem?.mp hin
      obtain ⟨hlt, hfree⟩ := getElem?_inside.mp hi
      have hpositional : i < call.positional.length := Nat.lt_of_lt_of_le hlt (count_le _ _ _)
      have harg : call.positional[i]? = some call.positional[i] :=
        List.getElem?_eq_getElem hpositional
      rw [argument?_of_inside hd hi, harg, (get?_args_iff hd).mpr (.positional hlt hfree harg)]
      rfl
    · rw [get?_args_of_outside hd hout, argument?_of_outside hd hout]
      rfl
  · rw [(get?_args_iff hd).mpr (.keyword hf hmark hkey)]
    simp [CallArgs.argument?, hkey]

theorem binds_eq {f : Formal} (hf : f ∈ formals) (hmark : f.isCatchAll = false) :
    (bind formals call).binds f = ((call.argument? formals f).isSome || f.default?.isSome) := by
  unfold Binding.binds Dict.contains
  rw [get?_args_eq hd hf hmark]
  simp

/-! ### What is missing -/

omit hd in
/-- A filter that keeps nothing inside the window sees only the parameters outside, in order. -/
theorem filter_free_eq_outside {p : Formal → Bool}
    (hp : ∀ f ∈ (ofCount formals call.keyword call.positional.length).inside, p f = false) :
    (free formals call.keyword).filter p
      = (ofCount formals call.keyword call.positional.length).outside.filter p := by
  rw [inside_ofCount] at hp
  rw [outside_ofCount]
  generalize start formals call.keyword call.positional.length = s at hp ⊢
  generalize count formals call.keyword call.positional.length = c at hp ⊢
  have hsplit : free formals call.keyword = (free formals call.keyword).take s ++
      (((free formals call.keyword).drop s).take c ++
        (free formals call.keyword).drop (s + c)) := by
    rw [← List.drop_drop, List.take_append_drop, List.take_append_drop]
  -- of the three parts the window cuts the free parameters into, the middle one is inside
  have hmiddle : (((free formals call.keyword).drop s).take c).filter p = [] := by
    rw [List.filter_eq_nil_iff]
    intro f hf
    simp [hp f hf]
  conv_lhs => rw [hsplit]
  rw [List.filter_append, List.filter_append, List.filter_append, hmiddle, List.nil_append]

/-- Outside the window every mandatory parameter is unbound. -/
theorem not_binds_of_outside {f : Formal}
    (hf : f ∈ (ofCount formals call.keyword call.positional.length).outside)
    (hmandatory : f.mandatory = true) : (bind formals call).binds f = false := by
  unfold Binding.binds Dict.contains
  rw [get?_args_of_outside hd hf, Formal.default?_of_mandatory hmandatory]
  rfl

/-- The parameters left unbound are free ones. -/
theorem unmet_eq_filter_free : (bind formals call).unmet formals =
    (free formals call.keyword).filter fun f => f.mandatory && !(bind formals call).binds f := by
  unfold Binding.unmet free
  rw [List.filter_filter]
  refine List.filter_congr ?_
  intro f hf
  by_cases hmark : f.isCatchAll = true
  · simp [Formal.isFree, hmark]
  · rw [Bool.not_eq_true] at hmark
    rcases hkey : Dict.get? f.name call.keyword with _ | e
    · simp [Formal.isFree, Dict.contains, hmark, hkey]
    · simp [Formal.isFree, Dict.contains, hmark, hkey, binds_eq hd hf hmark, CallArgs.argument?]

/-- The missing parameters are the mandatory ones that are not bound, in declaration order. -/
theorem missing_eq :
    (bind formals call).missing = ((bind formals call).unmet formals).map (·.name) := by
  have hinside : ∀ f ∈ (ofCount formals call.keyword call.positional.length).inside,
      (f.mandatory && !(bind formals call).binds f) = false := by
    intro f hf
    obtain ⟨e, he⟩ := get?_args_of_mem_inside hd hf
    simp [Binding.binds, Dict.contains, he]
  have houtside : ∀ f ∈ (ofCount formals call.keyword call.positional.length).outside,
      (f.mandatory && !(bind formals call).binds f) = f.mandatory := by
    intro f hf
    by_cases hmandatory : f.mandatory = true
    · simp [hmandatory, not_binds_of_outside hd hf hmandatory]
    · simp [hmandatory]
  rw [unmet_eq_filter_free hd, filter_free_eq_outside hinside, List.filter_congr houtside]
  rfl

theorem succeeded_iff :
    (bind formals call).succeeded = true ↔ (bind formals call).unmet formals = [] := by
  unfold Binding.succeeded
  rw [missing_eq hd, List.isEmpty_iff, List.map_eq_nil_iff]

/-! ### The overlooked parameters

Left to be looked at is a mandatory parameter outside the window that declares a
default.  It is reported missing, and its default, which would have made it dispensable,
is passed over.
-/

/-- The overlooked parameters are those left unbound that declare a default. -/
theorem overlooked_eq : call.overlooked formals
    = ((bind formals call).unmet formals).filter fun f => f.declared?.isSome := by
  unfold CallArgs.overlooked Binding.unmet
  rw [List.filter_filter]
  refine List.filter_congr ?_
  intro f hf
  by_cases hmark : f.isCatchAll = true
  · simp [hmark]
  · rw [Bool.not_eq_true] at hmark
    by_cases hmandatory : f.mandatory = true
    · rw [binds_eq hd hf hmark, Formal.default?_of_mandatory hmandatory]
      simp [hmark, hmandatory]
    · simp [hmandatory]

/-- Every parameter with a default is bound unless one is overlooked. -/
theorem overlooked_eq_nil_iff : call.overlooked formals = [] ↔
    ∀ f ∈ formals, f.isCatchAll = false → f.declared?.isSome = true →
      (bind formals call).binds f = true := by
  unfold CallArgs.overlooked
  rw [List.filter_eq_nil_iff]
  refine forall₂_congr fun f hf => ?_
  by_cases hmark : f.isCatchAll = true
  · simp [hmark]
  · rw [Bool.not_eq_true] at hmark
    rw [binds_eq hd hf hmark]
    rcases hmandatory : f.mandatory with _ | _
    · rw [Formal.default?_of_optional hmandatory]
      simp +contextual [hmark]
    · rw [Formal.default?_of_mandatory hmandatory]
      simp [hmark, Option.isSome_iff_ne_none]

/-- What is missing declares no default exactly if nothing is overlooked. -/
theorem overlooked_eq_nil_iff_missing : call.overlooked formals = [] ↔
    (bind formals call).missing =
      (((bind formals call).unmet formals).filter fun f => f.declared?.isNone).map (·.name) := by
  rw [overlooked_eq hd, missing_eq hd, List.filter_eq_nil_iff]
  simp only [Option.not_isSome_iff_eq_none]
  constructor
  · intro hnone
    rw [List.filter_eq_self.mpr fun f hf => by simp [hnone f hf]]
  · intro hnames f hf
    -- a sublist that is as long as the whole is the whole
    have hlen := congrArg List.length hnames
    rw [List.length_map, List.length_map] at hlen
    rw [← List.filter_sublist.eq_of_length hlen.symm] at hf
    simpa using (List.mem_filter.mp hf).2

/-- A call succeeds exactly if nothing is overlooked and nothing else is left unbound. -/
theorem succeeded_iff_overlooked : (bind formals call).succeeded = true ↔
    call.overlooked formals = [] ∧
      (((bind formals call).unmet formals).filter fun f => f.declared?.isNone) = [] := by
  rw [succeeded_iff hd, overlooked_eq hd, List.filter_eq_nil_iff, List.filter_eq_nil_iff,
    List.eq_nil_iff_forall_not_mem]
  constructor
  · intro hno
    exact ⟨fun f hf => absurd hf (hno f), fun f hf => absurd hf (hno f)⟩
  · intro hx f hf
    rcases hdefault : f.declared? with _ | v
    · exact hx.2 f hf (by simp [hdefault])
    · exact hx.1 f hf (by simp [hdefault])

/-- What a parameter that declares a default is bound to. -/
theorem get?_args_of_declared {f : Formal} (hf : f ∈ formals) (hmark : f.isCatchAll = false)
    {v : Value} (hv : f.declared? = some v) :
    Dict.get? f.name (bind formals call).args = match call.argument? formals f with
      | some e => some (.given e)
      | none => if f.mandatory then none else some (.fallback v) := by
  rw [get?_args_eq hd hf hmark]
  rcases call.argument? formals f with _ | e
  · rcases hmandatory : f.mandatory with _ | _
    · simp [Formal.default?_of_optional hmandatory, hv]
    · simp [Formal.default?_of_mandatory hmandatory]
  · rfl

end

/--
**When a default stands in for an argument.**  A parameter with a default is bound to its
argument, and without one to its default if it is optional and to nothing if it is
mandatory.  So the defaults do all that is expected of them, and only what declares none
is ever missing, exactly if no parameter is overlooked.
-/
theorem defaults_stand_in_iff (formals : List Formal) (call : CallArgs ε)
    (hd : (formals.map (·.name)).Nodup) :
    let b := bind formals call
    let needed := (b.unmet formals).filter fun f => f.declared?.isNone
    (∀ f ∈ formals, f.isCatchAll = false → ∀ v, f.declared? = some v →
      Dict.get? f.name b.args = match call.argument? formals f with
        | some e => some (.given e)
        | none => if f.mandatory then none else some (.fallback v)) ∧
    (call.overlooked formals = [] ↔
      ∀ f ∈ formals, f.isCatchAll = false → f.declared?.isSome = true → b.binds f = true) ∧
    (call.overlooked formals = [] ↔ b.missing = needed.map (·.name)) ∧
    (b.succeeded = true ↔ call.overlooked formals = [] ∧ needed = []) ∧
    b.missing = (b.unmet formals).map (·.name) := by
  intro b needed
  exact ⟨fun f hf hmark v hv => get?_args_of_declared hd hf hmark hv, overlooked_eq_nil_iff hd,
    overlooked_eq_nil_iff_missing hd, succeeded_iff_overlooked hd, missing_eq hd⟩

/-- An argument saves a mandatory parameter from being overlooked; an optional one needs none. -/
theorem defaults_stand_in_seconds :
    let formals : List Formal :=
      [⟨"count", true, some (.ofInt 5)⟩, .withFallback "unit" (.ofInt 60)]
    let call : CallArgs Nat := ⟨[7], .nil⟩
    (formals.map (·.name)).Nodup ∧ call.overlooked formals = [] ∧
      (bind formals call).succeeded = true ∧
      Dict.get? "count" (bind formals call).args = some (.given 7) ∧
      Dict.get? "unit" (bind formals call).args = some (.fallback (.ofInt 60)) := by
  intro formals call
  have hd : (formals.map (·.name)).Nodup := by decide
  have hnone : call.overlooked formals = [] := rfl
  obtain ⟨hargs, -, -, hsucceeded, -⟩ := defaults_stand_in_iff formals call hd
  refine ⟨hd, hnone, hsucceeded.mpr ⟨hnone, rfl⟩, ?_, ?_⟩
  · exact hargs ⟨"count", true, some (.ofInt 5)⟩ (by simp [formals]) (by decide) (.ofInt 5) rfl
  · exact hargs (.withFallback "unit" (.ofInt 60)) (by simp [formals]) (by decide) (.ofInt 60) rfl

/-- A mandatory parameter no argument reaches fails the call, its default notwithstanding. -/
theorem mandatory_default_is_overlooked :
    let count : Formal := ⟨"count", true, some (.ofInt 5)⟩
    let b := bind [count] (CallArgs.none : CallArgs Nat)
    count.declared?.isSome = true ∧ b.binds count = false ∧ b.succeeded = false ∧
      b.missing = ["count"] ∧ (b.unmet [count]).filter (fun f => f.declared?.isNone) = [] := by
  exact ⟨rfl, rfl, rfl, rfl, rfl⟩

end TemplateExpr
