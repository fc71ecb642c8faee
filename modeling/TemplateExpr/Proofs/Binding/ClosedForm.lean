/-
What a call binds, in closed form.

`bind` collects three lists of entries: the parameters keywords name, the parameters of
the window, and the defaults of what is left outside.  Parameters with distinct names
occur in at most one of the three, so the dictionary made of them holds them all and
`Binds` can say name by name what a call binds, from the numbers of its window alone.

The window leaves positional arguments over while parameters are free in exactly one
case: nothing is mandatory and the first parameter no keyword names is a marker.

The numbers are those of `Proofs/Binding/Window`.  The outcome of binding is stated
through them and through the parameters that keywords leave free, so that it can be
checked by counting, without following the window.
-/
import Mathlib.Data.List.Perm.Basic
import TemplateExpr.Proofs.Binding.Window
import TemplateExpr.Proofs.Dict

namespace TemplateExpr

open Window

variable {ε : Type}

/-- What a call binds a name to. -/
inductive Binds (formals : List Formal) (call : CallArgs ε) : String → Bound ε → Prop
  /-- A keyword that names a parameter gives it its argument. -/
  | keyword {f : Formal} {e : ε} (hf : f ∈ formals) (hmark : f.isCatchAll = false)
      (he : Dict.get? f.name call.keyword = some e) : Binds formals call f.name (.given e)
  /-- The parameters of the window get the positional arguments in order. -/
  | positional {i : Nat} {f : Formal} {e : ε}
      (hi : i < count formals call.keyword call.positional.length)
      (hf : (free formals call.keyword)[start formals call.keyword call.positional.length + i]?
        = some f)
      (he : call.positional[i]? = some e) : Binds formals call f.name (.given e)
  /-- A parameter outside the window gets its default, unless it is mandatory. -/
  | fallback {j : Nat} {f : Formal} {v : Value}
      (hj : j < start formals call.keyword call.positional.length ∨
        start formals call.keyword call.positional.length
          + count formals call.keyword call.positional.length ≤ j)
      (hf : (free formals call.keyword)[j]? = some f) (hoptional : f.mandatory = false)
      (hv : f.fallback = some v) (hne : v.isEmpty = false) : Binds formals call f.name (.fallback v)

/-! ### The three lists of entries

Each list is characterised by what stands in it, without regard to order: the order of
the entries is lost in the dictionary anyway, as long as no name occurs twice.
-/

section

variable {formals : List Formal} {keyword : Dict ε}

theorem mem_namedArgs {name : String} {x : Bound ε} :
    (name, x) ∈ namedArgs formals keyword ↔
      ∃ f ∈ formals, f.isCatchAll = false ∧ f.name = name ∧
        ∃ e, Dict.get? f.name keyword = some e ∧ x = .given e := by
  unfold namedArgs
  constructor
  · intro h
    obtain ⟨f, hf, hx⟩ := List.mem_filterMap.mp h
    obtain ⟨hmem, hnamed⟩ := List.mem_filter.mp hf
    obtain ⟨e, he, hpair⟩ := Option.map_eq_some_iff.mp hx
    simp only [Formal.isNamed, Bool.and_eq_true, Bool.not_eq_true'] at hnamed
    simp only [Prod.mk.injEq] at hpair
    exact ⟨f, hmem, hnamed.1, hpair.1, e, he, hpair.2.symm⟩
  · intro hx
    obtain ⟨f, hmem, hmark, rfl, e, he, rfl⟩ := hx
    refine List.mem_filterMap.mpr ⟨f, List.mem_filter.mpr ⟨hmem, ?_⟩, by simp [he]⟩
    simp [Formal.isNamed, hmark, Dict.contains, he]

theorem mem_windowArgs {w : Window} {positional : List ε} {name : String} {x : Bound ε} :
    (name, x) ∈ windowArgs w positional ↔
      ∃ (i : Nat) (f : Formal) (e : ε), w.inside[i]? = some f ∧ f.name = name ∧
        positional[i]? = some e ∧ x = .given e := by
  unfold windowArgs
  rw [List.mem_iff_getElem?]
  constructor
  · intro hx
    obtain ⟨i, hi⟩ := hx
    obtain ⟨hname, hx⟩ := List.getElem?_zip_eq_some.mp hi
    rw [List.getElem?_map, Option.map_eq_some_iff] at hname hx
    obtain ⟨f, hf, hname⟩ := hname
    obtain ⟨e, he, hx⟩ := hx
    exact ⟨i, f, e, hf, hname, he, hx.symm⟩
  · intro hx
    obtain ⟨i, f, e, hf, rfl, he, rfl⟩ := hx
    refine ⟨i, List.getElem?_zip_eq_some.mpr ?_⟩
    simp [hf, he]

theorem mem_defaultArgs {unfilled : List Formal} {name : String} {x : Bound ε} :
    (name, x) ∈ defaultArgs unfilled ↔
      ∃ f ∈ unfilled, f.name = name ∧ f.mandatory = false ∧
        ∃ v, f.fallback = some v ∧ v.isEmpty = false ∧ x = .fallback v := by
  unfold defaultArgs Formal.default?
  rw [List.mem_filterMap]
  refine exists_congr fun f => and_congr_right fun _ => ?_
  rcases f.mandatory with _ | _
  · simp only [Bool.false_eq_true, if_false, Option.map_eq_some_iff, Option.filter_eq_some_iff,
      Bool.not_eq_true', Prod.mk.injEq, true_and]
    constructor
    · intro hx
      obtain ⟨v, ⟨hv, hne⟩, rfl, rfl⟩ := hx
      exact ⟨rfl, v, hv, hne, rfl⟩
    · intro hx
      obtain ⟨rfl, v, hv, hne, rfl⟩ := hx
      exact ⟨v, ⟨hv, hne⟩, rfl, rfl⟩
  · simp

/-! ### No name occurs twice -/

theorem keys_namedArgs_sublist :
    ((namedArgs formals keyword).map (·.1)).Sublist
      ((formals.filter (·.isNamed keyword)).map (·.name)) := by
  unfold namedArgs
  induction formals.filter (·.isNamed keyword) with
  | nil => exact List.Sublist.refl _
  | cons f rest ih =>
      rcases he : Dict.get? f.name keyword with _ | e
      · rw [List.filterMap_cons_none (by simp [he])]
        exact ih.trans (List.sublist_cons_self _ _)
      · rw [List.filterMap_cons_some (b := (f.name, .given e)) (by simp [he])]
        exact ih.cons_cons _

theorem keys_windowArgs {w : Window} {positional : List ε}
    (h : w.inside.length ≤ positional.length) :
    (windowArgs w positional).map (·.1) = w.inside.map (·.name) :=
  List.map_fst_zip (by simpa using h)

theorem keys_defaultArgs_sublist (unfilled : List Formal) :
    ((defaultArgs (ε := ε) unfilled).map (·.1)).Sublist (unfilled.map (·.name)) := by
  unfold defaultArgs
  induction unfilled with
  | nil => exact List.Sublist.refl _
  | cons f rest ih =>
      rcases hv : f.default? with _ | v
      · rw [List.filterMap_cons_none (by simp [hv])]
        exact ih.trans (List.sublist_cons_self _ _)
      · rw [List.filterMap_cons_some (b := (f.name, .fallback v)) (by simp [hv])]
        exact ih.cons_cons _

/-- The named parameters and the free ones are different parameters. -/
theorem nodup_named_free (hd : (formals.map (·.name)).Nodup) :
    ((formals.filter (·.isNamed keyword) ++ free formals keyword).map (·.name)).Nodup := by
  have hsub : (free formals keyword).Sublist (formals.filter fun f => !f.isNamed keyword) := by
    refine List.monotone_filter_right formals ?_
    intro f hf
    simp only [Formal.isFree, Formal.isNamed, Bool.and_eq_true, Bool.not_eq_true'] at hf ⊢
    simp [hf.2]
  have hall := List.filter_append_perm (fun f : Formal => f.isNamed keyword) formals
  exact (((hall.map (·.name)).nodup_iff).mpr hd).sublist
    (((List.Sublist.refl _).append hsub).map (·.name))

/-- What is inside a window and what is outside make up the free parameters. -/
theorem perm_inside_outside (formals : List Formal) (keyword : Dict ε) (arguments : Nat) :
    ((ofCount formals keyword arguments).inside ++ (ofCount formals keyword arguments).outside).Perm
      (free formals keyword) := by
  rw [inside_ofCount, outside_ofCount]
  generalize start formals keyword arguments = s
  generalize count formals keyword arguments = c
  have hsplit : (free formals keyword).take s ++
      (((free formals keyword).drop s).take c ++ (free formals keyword).drop (s + c))
        = free formals keyword := by
    rw [← List.drop_drop, List.take_append_drop, List.take_append_drop]
  refine List.Perm.trans ?_ (List.Perm.of_eq hsplit)
  rw [← List.append_assoc, ← List.append_assoc]
  exact List.perm_append_comm.append_right _

theorem nodup_entries (hd : (formals.map (·.name)).Nodup) (positional : List ε) :
    (List.map (fun e : String × Bound ε => e.1) (namedArgs formals keyword
      ++ windowArgs (ofCount formals keyword positional.length) positional
      ++ defaultArgs (ofCount formals keyword positional.length).outside)).Nodup := by
  have hperm := (perm_inside_outside formals keyword positional.length).append_left
    (formals.filter (·.isNamed keyword))
  have hnodup := ((hperm.map (·.name)).nodup_iff).mpr (nodup_named_free hd)
  have hfits : (ofCount formals keyword positional.length).inside.length ≤ positional.length := by
    rw [length_inside_ofCount]
    exact count_le _ _ _
  refine hnodup.sublist ?_
  rw [← List.append_assoc, List.map_append, List.map_append, List.map_append, List.map_append]
  refine List.Sublist.append (List.Sublist.append keys_namedArgs_sublist ?_)
    (keys_defaultArgs_sublist _)
  rw [← keys_windowArgs hfits]

end

/-! ### The closed form

`Binds` has one constructor for each way a name can come to be bound.  With distinct
names exactly the entries of the three lists are bound, so reading a name off the
dictionary is reading it off `Binds`.
-/

section

variable {formals : List Formal} {call : CallArgs ε}

theorem getElem?_inside {i : Nat} {f : Formal} :
    (ofCount formals call.keyword call.positional.length).inside[i]? = some f ↔
      i < count formals call.keyword call.positional.length ∧
        (free formals call.keyword)[start formals call.keyword call.positional.length + i]? =
          some f := by
  rw [inside_ofCount, List.getElem?_take]
  by_cases hi : i < count formals call.keyword call.positional.length
  · simp [hi]
  · simp [hi]

theorem mem_outside {f : Formal} :
    f ∈ (ofCount formals call.keyword call.positional.length).outside ↔
      ∃ j, (j < start formals call.keyword call.positional.length ∨
          start formals call.keyword call.positional.length
            + count formals call.keyword call.positional.length ≤ j) ∧
        (free formals call.keyword)[j]? = some f := by
  rw [outside_ofCount, List.mem_append, List.mem_iff_getElem?, List.mem_iff_getElem?]
  generalize start formals call.keyword call.positional.length = s
  generalize count formals call.keyword call.positional.length = c
  constructor
  · intro hx
    rcases hx with ⟨j, hj⟩ | ⟨j, hj⟩
    · rw [List.getElem?_take] at hj
      by_cases hlt : j < s
      · rw [if_pos hlt] at hj
        exact ⟨j, Or.inl hlt, hj⟩
      · simp [hlt] at hj
    · rw [List.getElem?_drop] at hj
      exact ⟨s + c + j, Or.inr (Nat.le_add_right _ _), hj⟩
  · intro hx
    rcases hx with ⟨j, hlt | hle, hj⟩
    · refine Or.inl ⟨j, ?_⟩
      rw [List.getElem?_take, if_pos hlt, hj]
    · refine Or.inr ⟨j - (s + c), ?_⟩
      rw [List.getElem?_drop, Nat.add_sub_cancel' hle, hj]

/-- Looking a name up in the arguments of a binding. -/
theorem get?_args_iff (hd : (formals.map (·.name)).Nodup) {name : String} {x : Bound ε} :
    Dict.get? name (bind formals call).args = some x ↔ Binds formals call name x := by
  show Dict.get? name (Dict.ofList _) = some x ↔ _
  rw [Dict.get?_ofList_eq_some_iff (nodup_entries hd call.positional), List.mem_append,
    List.mem_append, mem_namedArgs, mem_windowArgs, mem_defaultArgs]
  constructor
  · intro hx
    rcases hx with (⟨f, hf, hmark, rfl, e, he, rfl⟩ | ⟨i, f, e, hf, rfl, he, rfl⟩) |
      ⟨f, hf, rfl, hoptional, v, hv, hne, rfl⟩
    · exact .keyword hf hmark he
    · obtain ⟨hi, hf⟩ := getElem?_inside.mp hf
      exact .positional hi hf he
    · obtain ⟨j, hj, hf⟩ := mem_outside.mp hf
      exact .fallback hj hf hoptional hv hne
  · intro h
    cases h with
    | keyword hf hmark he => exact Or.inl (Or.inl ⟨_, hf, hmark, rfl, _, he, rfl⟩)
    | positional hi hf he =>
        exact Or.inl (Or.inr ⟨_, _, _, getElem?_inside.mpr ⟨hi, hf⟩, rfl, he, rfl⟩)
    | fallback hj hf hoptional hv hne =>
        exact Or.inr ⟨_, mem_outside.mpr ⟨_, hj, hf⟩, rfl, hoptional, _, hv, hne, rfl⟩

theorem isFree_of_mem_free {f : Formal} (hf : f ∈ free formals call.keyword) :
    f ∈ formals ∧ f.isCatchAll = false ∧ Dict.get? f.name call.keyword = none := by
  obtain ⟨hmem, hfree⟩ := List.mem_filter.mp hf
  simp only [Formal.isFree, Bool.and_eq_true, Bool.not_eq_true', Dict.contains,
    Option.isSome_eq_false_iff, Option.isNone_iff_eq_none] at hfree
  exact ⟨hmem, hfree.1, hfree.2⟩

/-- Only parameters that are no markers are ever bound. -/
theorem Binds.exists_formal {name : String} {x : Bound ε} (h : Binds formals call name x) :
    ∃ f ∈ formals, f.isCatchAll = false ∧ f.name = name := by
  cases h with
  | keyword hf hmark he => exact ⟨_, hf, hmark, rfl⟩
  | positional hi hf he =>
      obtain ⟨hmem, hmark, -⟩ := isFree_of_mem_free (List.mem_of_getElem? hf)
      exact ⟨_, hmem, hmark, rfl⟩
  | fallback hj hf hoptional hv hne =>
      obtain ⟨hmem, hmark, -⟩ := isFree_of_mem_free (List.mem_of_getElem? hf)
      exact ⟨_, hmem, hmark, rfl⟩

/-- A keyword argument is extra unless it names a parameter that is no marker. -/
theorem extraKeyword_eq (hd : (formals.map (·.name)).Nodup) :
    (bind formals call).extraKeyword.entries
      = call.keyword.entries.filter fun e =>
          !formals.any fun f => !f.isCatchAll && f.name == e.1 := by
  refine (Dict.entries_ofList_filter call.keyword _).trans (List.filter_congr ?_)
  intro e he
  congr 1
  rw [Bool.eq_iff_iff, List.any_eq_true]
  constructor
  · intro hc
    obtain ⟨x, hx⟩ := Option.isSome_iff_exists.mp hc
    obtain ⟨f, hf, hmark, hname⟩ := ((get?_args_iff hd).mp hx).exists_formal
    exact ⟨f, hf, by simp [hmark, hname]⟩
  · intro hx
    obtain ⟨f, hf, hname⟩ := hx
    simp only [Bool.and_eq_true, Bool.not_eq_true', beq_iff_eq] at hname
    have hkey : Dict.contains e.1 call.keyword = true :=
      Dict.contains_iff_mem_keys.mpr (List.mem_map_of_mem he)
    obtain ⟨a, ha⟩ := Option.isSome_iff_exists.mp hkey
    rw [← hname.2] at ha ⊢
    exact Option.isSome_iff_exists.mpr ⟨_, (get?_args_iff hd).mpr (.keyword hf hname.1 ha)⟩

/--
**What a call binds.**  The window starts at the first mandatory free parameter, or as
far before it as the arguments reach, and is as long as the arguments or the free
parameters allow, unless it stays shut.  Name by name the call binds what `Binds` says
and nothing else; what the window leaves over of parameters, positional arguments and
keywords is missing or extra, in order.
-/
theorem bind_closed_form (formals : List Formal) (call : CallArgs ε)
    (hd : (formals.map (·.name)).Nodup) :
    let O := free formals call.keyword
    let c := count formals call.keyword call.positional.length
    let s := start formals call.keyword call.positional.length
    (∀ name x, Dict.get? name (bind formals call).args = some x ↔ Binds formals call name x) ∧
      (bind formals call).args.keys.Pairwise (· < ·) ∧
      (bind formals call).missing =
        ((O.take s ++ O.drop (s + c)).filter (·.mandatory)).map (·.name) ∧
      (bind formals call).extraPositional = call.positional.drop c ∧
      (bind formals call).extraKeyword.entries = call.keyword.entries.filter fun e =>
        !formals.any fun f => !f.isCatchAll && f.name == e.1 := by
  refine ⟨fun name x => get?_args_iff hd, Dict.sorted_keys _, ?_, ?_, extraKeyword_eq hd⟩
  · rw [← outside_ofCount]
    rfl
  · rw [← length_inside_ofCount formals call.keyword call.positional.length]
    rfl

/-- Six arguments for three parameters, one of them by keyword and one keyword too many. -/
theorem bind_closed_form_greeting :
    let formals := [Formal.withFallback "greeting" (.ofInt 0), .required "name", .optional "mark"]
    let call : CallArgs Nat := ⟨[1, 2, 4, 6], .ofList [("extra", 5), ("mark", 3)]⟩
    (formals.map (·.name)).Nodup ∧
      Dict.get? "greeting" (bind formals call).args = some (.given 1) ∧
      Dict.get? "name" (bind formals call).args = some (.given 2) ∧
      Dict.get? "mark" (bind formals call).args = some (.given 3) ∧
      (bind formals call).missing = [] ∧ (bind formals call).extraPositional = [4, 6] ∧
      (bind formals call).extraKeyword.entries = [("extra", 5)] := by
  intro formals call
  have hd : (formals.map (·.name)).Nodup := by decide
  obtain ⟨hargs, -, hmissing, hpositional, hkeyword⟩ := bind_closed_form formals call hd
  refine ⟨hd, (hargs _ _).mpr ?_, (hargs _ _).mpr ?_, (hargs _ _).mpr ?_, ?_, ?_, ?_⟩
  · exact .positional (i := 0) (f := .withFallback "greeting" (.ofInt 0)) (by decide) rfl rfl
  · exact .positional (i := 1) (f := .required "name") (by decide) rfl rfl
  · exact .keyword (f := .optional "mark") (by simp [formals]) (by decide) rfl
  · rw [hmissing]
    decide
  · rw [hpositional]
    decide
  · rw [hkeyword]
    decide

end

end TemplateExpr
