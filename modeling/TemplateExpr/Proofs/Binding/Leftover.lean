/-
When positional arguments are left over.

One expects a positional argument to be extra only once every free parameter has one.
That is so except where the window stays shut: nothing free is mandatory and the first
parameter no keyword names is a marker.  Then no positional argument is bound at all,
however many parameters are free behind the marker.
-/
import TemplateExpr.Proofs.Binding.ClosedForm

namespace TemplateExpr

open Window

variable {ε : Type}

/-- The parameters among `free` that are bound to an argument of the call. -/
def Binding.received (b : Binding ε) (free : List Formal) : List Formal :=
  free.filter fun f =>
    match Dict.get? f.name b.args with
    | some (.given _) => true
    | _ => false

variable {formals : List Formal} {call : CallArgs ε}

theorem nodup_free (hd : (formals.map (·.name)).Nodup) :
    ((free formals call.keyword).map (·.name)).Nodup :=
  hd.sublist (List.Sublist.map _ List.filter_sublist)

/-- A free parameter inside the window is bound to its positional argument. -/
theorem get?_args_of_mem_inside (hd : (formals.map (·.name)).Nodup) {f : Formal}
    (hf : f ∈ (ofCount formals call.keyword call.positional.length).inside) :
    ∃ e, Dict.get? f.name (bind formals call).args = some (.given e) := by
  obtain ⟨i, hi⟩ := List.mem_iff_getElem?.mp hf
  obtain ⟨hlt, hfree⟩ := getElem?_inside.mp hi
  have hpositional : i < call.positional.length := Nat.lt_of_lt_of_le hlt (count_le _ _ _)
  exact ⟨call.positional[i], (get?_args_iff hd).mpr
    (.positional hlt hfree (List.getElem?_eq_getElem hpositional))⟩

/-- A free parameter bound to an argument of the call is inside the window. -/
theorem mem_inside_of_get?_args (hd : (formals.map (·.name)).Nodup) {f : Formal} {e : ε}
    (hf : f ∈ free formals call.keyword)
    (he : Dict.get? f.name (bind formals call).args = some (.given e)) :
    f ∈ (ofCount formals call.keyword call.positional.length).inside := by
  generalize hname : f.name = name at he
  cases (get?_args_iff hd).mp he with
  | keyword hg hmark he =>
      rw [← hname, (isFree_of_mem_free hf).2.2] at he
      exact absurd he (by simp)
  | @positional i g _ hi hg he =>
      have hgf : g = f :=
        List.inj_on_of_nodup_map (nodup_free hd) (List.mem_of_getElem? hg) hf hname.symm
      rw [← hgf]
      exact List.mem_of_getElem? (getElem?_inside.mpr ⟨hi, hg⟩)

theorem mem_received {b : Binding ε} {free : List Formal} {f : Formal} :
    f ∈ b.received free ↔ f ∈ free ∧ ∃ e, Dict.get? f.name b.args = some (.given e) := by
  unfold Binding.received
  rw [List.mem_filter]
  refine and_congr_right fun _ => ?_
  split
  · rename_i e he
    simp [he]
  · rename_i hno
    refine iff_of_false Bool.false_ne_true ?_
    intro hx
    obtain ⟨e, he⟩ := hx
    exact hno e he

theorem received_sublist (b : Binding ε) (free : List Formal) : (b.received free).Sublist free :=
  List.filter_sublist

/-- The parameters that receive a positional argument are those inside the window. -/
theorem perm_received_inside (hd : (formals.map (·.name)).Nodup) :
    ((bind formals call).received (free formals call.keyword)).Perm
      (ofCount formals call.keyword call.positional.length).inside := by
  have hfree : (free formals call.keyword).Nodup := List.Nodup.of_map _ (nodup_free hd)
  have hinside : (ofCount formals call.keyword call.positional.length).inside.Sublist
      (free formals call.keyword) := by
    rw [inside_ofCount]
    exact (List.take_sublist _ _).trans (List.drop_sublist _ _)
  refine (List.perm_ext_iff_of_nodup (hfree.sublist (received_sublist _ _))
    (hfree.sublist hinside)).mpr ?_
  intro f
  rw [mem_received]
  constructor
  · intro hx
    obtain ⟨hf, e, he⟩ := hx
    exact mem_inside_of_get?_args hd hf he
  · intro hf
    exact ⟨hinside.subset hf, get?_args_of_mem_inside hd hf⟩

theorem staysShut_iff :
    staysShut formals call.keyword = true ↔
      (∀ f ∈ free formals call.keyword, f.mandatory = false) ∧
        ∃ f, formals.find? (fun f => !f.isNamed call.keyword) = some f ∧ f.isCatchAll = true := by
  unfold staysShut
  rw [Bool.and_eq_true, List.all_eq_true, Option.any_eq_true]
  simp only [Bool.not_eq_true']

theorem length_received (hd : (formals.map (·.name)).Nodup) :
    ((bind formals call).received (free formals call.keyword)).length
      = count formals call.keyword call.positional.length := by
  rw [(perm_received_inside hd).length_eq, length_inside_ofCount]

theorem length_extraPositional (formals : List Formal) (call : CallArgs ε) :
    (bind formals call).extraPositional.length
      = call.positional.length - count formals call.keyword call.positional.length := by
  show (call.positional.drop _).length = _
  rw [List.length_drop, length_inside_ofCount]

/--
**When the free parameters take all the arguments they can.**  They do unless there are
arguments and free parameters and the window stays shut, and then they take none.
-/
theorem received_fills_iff (formals : List Formal) (call : CallArgs ε)
    (hd : (formals.map (·.name)).Nodup) :
    let O := free formals call.keyword
    let received := (bind formals call).received O
    let blocked := call.positional ≠ [] ∧ O ≠ [] ∧ (∀ f ∈ O, f.mandatory = false) ∧
      ∃ f, formals.find? (fun f => !f.isNamed call.keyword) = some f ∧ f.isCatchAll = true
    received.length + (bind formals call).extraPositional.length = call.positional.length ∧
      (received.length = min call.positional.length O.length ↔ ¬blocked) ∧
      (blocked → received = [] ∧ (bind formals call).extraPositional = call.positional) ∧
      (¬blocked → (bind formals call).extraPositional ≠ [] → received = O) := by
  intro O received blocked
  have hlen : received.length = count formals call.keyword call.positional.length :=
    length_received hd
  have hextra := length_extraPositional formals call
  have hle := count_le formals call.keyword call.positional.length
  have hblocked : blocked ↔
      call.positional ≠ [] ∧ O ≠ [] ∧ staysShut formals call.keyword = true := by
    rw [staysShut_iff]
  rw [hblocked, ← List.length_pos_iff, ← List.length_pos_iff]
  refine ⟨by omega, ?_, ?_, ?_⟩
  · by_cases hshut : staysShut formals call.keyword = true
    · rw [count_of_staysShut hshut] at hlen
      simp only [hshut, and_true]
      omega
    · rw [count_of_not_staysShut hshut] at hlen
      simp [hshut, hlen, O]
  · intro hx
    obtain ⟨-, -, hshut⟩ := hx
    rw [count_of_staysShut hshut] at hlen hextra
    refine ⟨List.eq_nil_of_length_eq_zero hlen, ?_⟩
    exact (List.drop_sublist _ _).eq_of_length hextra
  · intro hopen hne
    refine (received_sublist _ O).eq_of_length ?_
    show received.length = O.length
    have hpos : 0 < (bind formals call).extraPositional.length := List.length_pos_iff.mpr hne
    by_cases hshut : staysShut formals call.keyword = true
    · simp only [hshut, and_true] at hopen
      rw [count_of_staysShut hshut] at hlen
      omega
    · rw [count_of_not_staysShut hshut] at hlen hextra
      show received.length = (free formals call.keyword).length
      omega

/-- A marker in front is no matter as long as something behind it is mandatory. -/
theorem received_fills_behind_marker :
    let formals := [Formal.optional "*args", .optional "first", .required "second"]
    let call : CallArgs Nat := ⟨[1, 2, 3], .nil⟩
    (formals.map (·.name)).Nodup ∧ (bind formals call).extraPositional ≠ [] ∧
      (bind formals call).received (free formals call.keyword)
        = [.optional "first", .required "second"] := by
  intro formals call
  have hd : (formals.map (·.name)).Nodup := by decide
  have hextra : (bind formals call).extraPositional ≠ [] := by decide
  obtain ⟨-, -, -, hall⟩ := received_fills_iff formals call hd
  refine ⟨hd, hextra, hall ?_ hextra⟩
  intro hx
  obtain ⟨-, -, hoptional, -⟩ := hx
  exact Bool.noConfusion (hoptional (.required "second") (by simp [formals, call, free]; decide))

/-- With a marker in front and nothing mandatory, an argument is left over and a parameter free. -/
theorem leftover_behind_marker :
    let formals := [Formal.optional "*args", .optional "first"]
    let call : CallArgs Nat := ⟨[1], .nil⟩
    (formals.map (·.name)).Nodup ∧ (bind formals call).extraPositional = [1] ∧
      ((bind formals call).received (free formals call.keyword)).length
        ≠ min call.positional.length (free formals call.keyword).length := by
  decide

end TemplateExpr
