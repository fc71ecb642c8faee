/-
The values a value holds.

A list or a map holds values, which may hold further ones.  `induct` is the induction
over values that this gives, `everywhere` asks a question about a value and about every
value inside it, and the rest says where the values inside a result come from: whatever
an operator, a filter or an index makes holds integers and what its operands held.

What is true of integers and of what the operands hold is thus true of what the result
holds.  This is the form in which the module is used: for values that are uniform, for
values none of which is backed.
-/
import TemplateExpr.Proofs.Dict
import TemplateExpr.Proofs.Simulation.Respects

namespace TemplateExpr

/-- The values a payload holds. -/
def Payload.held : Payload Value → List Value
  | .list (.owned items) => items
  | .list (.sparse slots) => slots.filterMap id
  | .map (.owned entries) => entries.values
  | .map (.keyed _ entries) => entries.values
  | _ => []

/-! ### Induction over values

A value is a payload with marks, and the payload holds the further values, in a list, in
slots of a list or in a map.  The recursion that Lean derives has a case for each of
these.  `Value.induct` has a single case with the values held as a list.
-/

private theorem sizeOf_slots {slots : List (Option Value)} {v : Value}
    (h : v ∈ slots.filterMap id) : sizeOf v < sizeOf slots := by
  obtain ⟨slot, hslot, hv⟩ := List.mem_filterMap.mp h
  obtain rfl : slot = some v := hv
  have hlt := List.sizeOf_lt_of_mem hslot
  rw [Option.some.sizeOf_spec] at hlt
  omega

theorem Payload.sizeOf_held {data : Payload Value} {v : Value} (h : v ∈ data.held) :
    sizeOf v < sizeOf data := by
  cases data with
  | list l =>
      cases l with
      | owned items =>
          have hlt : sizeOf v < sizeOf items := List.sizeOf_lt_of_mem h
          rw [Payload.list.sizeOf_spec, ListSource.owned.sizeOf_spec]
          omega
      | sparse slots =>
          have hlt : sizeOf v < sizeOf slots := sizeOf_slots h
          rw [Payload.list.sizeOf_spec, ListSource.sparse.sizeOf_spec]
          omega
      | progression count first step => exact absurd h (by simp [Payload.held])
  | map m =>
      cases m with
      | owned entries =>
          have hlt : sizeOf v < sizeOf entries := Dict.sizeOf_lt_of_mem_values h
          rw [Payload.map.sizeOf_spec, MapSource.owned.sizeOf_spec]
          omega
      | keyed keys entries =>
          have hlt : sizeOf v < sizeOf entries := Dict.sizeOf_lt_of_mem_values h
          rw [Payload.map.sizeOf_spec, MapSource.keyed.sizeOf_spec]
          omega
  | _ => exact absurd h (by simp [Payload.held])

theorem Value.sizeOf_held {v u : Value} (h : u ∈ v.data.held) : sizeOf u < sizeOf v := by
  obtain ⟨data, temporary, parent⟩ := v
  have hlt : sizeOf u < sizeOf data := Payload.sizeOf_held h
  rw [Value.mk.sizeOf_spec]
  omega

/-- Induction over values through the values they hold. -/
theorem Value.induct {P : Value → Prop}
    (h : ∀ data temporary parent, (∀ v ∈ data.held, P v) → P ⟨data, temporary, parent⟩) :
    ∀ v, P v := by
  intro v
  induction hn : sizeOf v using Nat.strongRecOn generalizing v with
  | ind n ih =>
      subst hn
      obtain ⟨data, temporary, parent⟩ := v
      exact h data temporary parent fun v hv => ih _ (Value.sizeOf_held hv) v rfl

/-- Whether a value and every value inside it satisfy `p`. -/
def Value.everywhere (p : Value → Bool) (v : Value) : Bool :=
  p v && v.data.held.attach.all fun u => Value.everywhere p u.1
termination_by sizeOf v
decreasing_by exact Value.sizeOf_held u.2

theorem Value.everywhere_iff {p : Value → Bool} {v : Value} :
    v.everywhere p = true ↔ p v = true ∧ ∀ u ∈ v.data.held, u.everywhere p = true := by
  rw [everywhere]
  simp

/-! ### What containers hold -/

/-- What holds of integers and of the values a list holds is true of its elements. -/
theorem ListSource.forall_items {P : Value → Prop} (hint : ∀ i, P (.ofInt i)) {l : ListSource Value}
    (h : ∀ v ∈ (Payload.list l).held, P v) : ∀ v ∈ l.items, P v := by
  cases l with
  | owned items => exact h
  | sparse slots => exact h
  | progression count first step =>
      intro v hv
      obtain ⟨i, -, rfl⟩ := List.mem_map.mp hv
      exact hint _

/-- What stands at a position is one of the elements. -/
theorem ListSource.mem_items_of_get? {l : ListSource Value} {i : Nat} {v : Value}
    (h : l.get? i = some v) : v ∈ l.items := by
  cases l with
  | owned items => exact List.mem_of_getElem? h
  | sparse slots =>
      have hslot : slots[i]? = some (some v) := Option.join_eq_some_iff.mp h
      exact List.mem_filterMap.mpr ⟨some v, List.mem_of_getElem? hslot, rfl⟩
  | progression count first step =>
      unfold get? at h
      dsimp only at h
      by_cases hi : i < count
      · rw [if_pos hi] at h
        exact List.mem_map.mpr ⟨i, List.mem_range.mpr hi, Option.some.inj h⟩
      · rw [if_neg hi] at h
        exact absurd h (by simp)

/-- What a map has for a key is a value it holds. -/
theorem MapSource.held_of_get? {m : MapSource Value} {key : String} {v : Value}
    (h : m.get? key = some v) : v ∈ (Payload.map m).held := by
  cases m with
  | owned entries => exact Dict.mem_values_of_get? h
  | keyed keys entries => exact Dict.mem_values_of_get? h

theorem Value.data_of_asMap? {v : Value} {m : MapSource Value} (h : v.asMap? = some m) :
    v.data = .map m := by
  obtain ⟨data, temporary, parent⟩ := v
  cases data with
  | map m' => exact congrArg Payload.map (Option.some.inj h)
  | _ => exact absurd h (by simp [asMap?])

/-! ### Results that take no slot

A payload without a slot is no text, list or map, so it holds nothing.  This settles
most operators: what they make is a number, a truth or empty.
-/

/-- What takes no slot holds no values. -/
theorem Payload.held_of_slot? {data : Payload Value} (h : data.slot? = none) : data.held = [] := by
  cases data with
  | list l => exact absurd h (by simp [slot?])
  | map m => exact absurd h (by simp [slot?])
  | _ => rfl

theorem Payload.slot?_numeric {f : Operands → Payload Value} (hf : ∀ o, (f o).slot? = none)
    (p q : Payload Value) : (Payload.numeric f p q).slot? = none := by
  unfold Payload.numeric
  cases p.operands? q with
  | none => rfl
  | some o => exact hf o

namespace Operands

variable (o : Operands)

theorem slot?_add : o.add.slot? = none := by
  cases o <;> rfl

theorem slot?_sub : o.sub.slot? = none := by
  cases o <;> rfl

theorem slot?_mul : o.mul.slot? = none := by
  cases o <;> rfl

theorem slot?_mod : o.mod.slot? = none := by
  unfold mod
  split
  · split <;> rfl
  · split <;> rfl

theorem slot?_floorDiv : o.floorDiv.slot? = none := by
  unfold floorDiv
  split
  · split <;> rfl
  · split <;> rfl

theorem slot?_pow : o.pow.slot? = none := by
  unfold pow
  split
  · split <;> rfl
  · rfl

end Operands

theorem Payload.slot?_div (p q : Payload Value) : (p.div q).slot? = none := by
  unfold div
  split
  · split <;> rfl
  · rfl

/-- Only adding and repeating make texts or lists. -/
theorem BinaryOp.slot?_apply (op : BinaryOp) (hadd : op ≠ .add) (hmul : op ≠ .mul) (a b : Value) :
    (op.apply a b).slot? = none := by
  cases op with
  | add => exact absurd rfl hadd
  | mul => exact absurd rfl hmul
  | sub => exact Payload.slot?_numeric Operands.slot?_sub _ _
  | div => exact Payload.slot?_div _ _
  | mod => exact Payload.slot?_numeric Operands.slot?_mod _ _
  | floorDiv => exact Payload.slot?_numeric Operands.slot?_floorDiv _ _
  | pow => exact Payload.slot?_numeric Operands.slot?_pow _ _
  | _ => rfl

theorem UnaryOp.slot?_apply (op : UnaryOp) (v : Value) : (op.apply v).slot? = none := by
  obtain ⟨data, temporary, parent⟩ := v
  cases op <;> cases data <;> rfl

/-! ### What results hold

Integers count as held by anything, because a progression computes them when it is
asked.  So a property of integers and of everything the operands hold is one of
everything the result holds, which is how uniform and clean values stay what they are.
-/

theorem Payload.held_mul (p q : Payload Value) : (p.mul q).held = [] := by
  unfold mul
  split
  · rfl
  · rfl
  · exact held_of_slot? (slot?_numeric Operands.slot?_mul _ _)

theorem Filter.held_result (f : Filter) (t : Text) (args : List Value) :
    (f.result t args).held = [] := by
  unfold result
  split <;> rfl

section

variable {P : Value → Prop} (hint : ∀ i, P (.ofInt i))

include hint

theorem Payload.forall_held_add {p q : Payload Value} (hp : ∀ u ∈ p.held, P u)
    (hq : ∀ u ∈ q.held, P u) : ∀ u ∈ (p.add q).held, P u := by
  have hnil : ∀ d : Payload Value, d.held = [] → ∀ u ∈ d.held, P u := by
    intro d hd u hu
    exact absurd (hd ▸ hu) List.not_mem_nil
  unfold add
  split
  · split
    · exact hnil _ rfl
    · exact hnil _ rfl
  · intro u hu
    rcases List.mem_append.mp hu with hu | hu
    · exact ListSource.forall_items hint hp u hu
    · exact ListSource.forall_items hint hq u hu
  · exact hnil _ (held_of_slot? (slot?_numeric Operands.slot?_add _ _))

/-- The values an operator's result holds are integers or were held by an operand. -/
theorem BinaryOp.forall_held (op : BinaryOp) {a b : Value} (ha : ∀ u ∈ a.data.held, P u)
    (hb : ∀ u ∈ b.data.held, P u) : ∀ u ∈ (op.apply a b).held, P u := by
  have hnil : (op.apply a b).held = [] → ∀ u ∈ (op.apply a b).held, P u := by
    intro h u hu
    exact absurd (h ▸ hu) List.not_mem_nil
  by_cases hadd : op = .add
  · subst hadd
    exact Payload.forall_held_add hint ha hb
  · by_cases hmul : op = .mul
    · subst hmul
      exact hnil (Payload.held_mul _ _)
    · exact hnil (Payload.held_of_slot? (op.slot?_apply hadd hmul a b))

/-- What an index reads is empty, a text of one character, an integer or a value that was held. -/
theorem Value.of_reading_held (hempty : P .empty) {base key : Value}
    (hchar : ∀ t c, base.data = .text t → c.width = t.width → P (.ofText c))
    (hbase : ∀ u ∈ base.data.held, P u) : P (base.reading key).1 := by
  obtain ⟨data, temporary, parent⟩ := base
  have hgetD : ∀ o : Option Value, (∀ u ∈ o, P u) → P (o.getD .empty) := by
    intro o ho
    cases o with
    | none => exact hempty
    | some u => exact ho u rfl
  cases data with
  | list l =>
      refine hgetD _ fun u hu => ?_
      obtain ⟨i, -, hu⟩ := Option.bind_eq_some_iff.mp hu
      obtain ⟨n, -, hu⟩ := Option.bind_eq_some_iff.mp hu
      exact ListSource.forall_items hint hbase u (ListSource.mem_items_of_get? hu)
  | map m =>
      refine hgetD _ fun u hu => ?_
      obtain ⟨name, -, hu⟩ := Option.bind_eq_some_iff.mp hu
      exact hbase u (MapSource.held_of_get? hu)
  | text t =>
      unfold reading
      dsimp only
      split
      · rename_i c hc
        obtain ⟨i, -, hc⟩ := Option.bind_eq_some_iff.mp hc
        obtain ⟨n, -, hc⟩ := Option.bind_eq_some_iff.mp hc
        obtain ⟨ch, -, rfl⟩ := Option.map_eq_some_iff.mp hc
        exact hchar t _ rfl (by simp)
      · exact hempty
  | _ => exact hempty

end

end TemplateExpr
