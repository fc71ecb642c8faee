/-
Seeding a pool with a document loses nothing.

What a document becomes does not depend on the pool it is put into, and each string, array
and object of it takes one slot.  So an array becomes the list of what its items become and
an object the map of what its members become, and reading these back gives the document.
The scope of an object is that map without the slot for it.

The statement about every pool comes first.  Only then can the value of a document be
spoken of at all, and everything else is about that value: it reads as the document, so
two documents with one value are one.
-/
import TemplateExpr.Index
import TemplateExpr.Json.Seed
import TemplateExpr.Proofs.Json.Reading

namespace TemplateExpr

/-! ### Computations that take slots

A computation in the pool could give another value from another pool.  Those that seed a
document do not: what they give and how much they take are fixed, so `value` can be read
off the run from the empty pool and holds for every other one.
-/

/-- From any pool a computation gives the same, and the pool grows by the same number of slots. -/
def Takes {α : Type} (m : StateM Pool α) (a : α) (n : Nat) : Prop :=
  ∀ p, ∃ p', m.run p = (a, p') ∧ p'.size = p.size + n

namespace Takes

variable {α β : Type} {m : StateM Pool α} {f : α → StateM Pool β} {a : α} {b : β} {n k : Nat}

theorem pure (a : α) : Takes (Pure.pure a) a 0 := fun p => ⟨p, rfl, rfl⟩

theorem create {data : Payload Value} (hslot : data.slot?.isSome = true) :
    Takes (Pool.create data) (.of data) 1 := by
  intro p
  refine ⟨p.keep data, rfl, ?_⟩
  rw [Pool.size_keep, if_pos hslot]

theorem bind (hm : Takes m a n) (hf : Takes (f a) b k) : Takes (m >>= f) b (n + k) := by
  intro p
  obtain ⟨p', hrun, hsize⟩ := hm p
  obtain ⟨p'', hrest, hrestSize⟩ := hf p'
  refine ⟨p'', ?_, by rw [hrestSize, hsize, Nat.add_assoc]⟩
  rw [StateT.run_bind, hrun]
  exact hrest

theorem map (hm : Takes m a n) (g : α → β) : Takes (m >>= fun a => Pure.pure (g a)) (g a) n :=
  hm.bind (f := fun a => Pure.pure (g a)) (.pure (g a))

end Takes

namespace Json

/-! ### Items and members

The slots of a container are those of its items or members and its own.  Both counts go
over the nodes of the document, so that they are what one would count in its text and
not what seeding happens to do.
-/

/-- Whether a document takes a slot of the pool for itself. -/
def takesSlot : Json → Bool
  | .string _ | .array _ | .object _ => true
  | _ => false

/-- The number of strings, arrays and objects in documents. -/
def slotCounts (js : List Json) : Nat := (js.flatMap nodes).countP takesSlot

/-- The number of strings, arrays and objects in a document. -/
def slotCount (j : Json) : Nat := j.nodes.countP takesSlot

/-- What a document becomes. -/
def value (j : Json) : Value := ((seed j).run .empty).1

variable {j : Json} {v : Value} {items : List Json}

theorem slotCount_eq (j : Json) :
    j.slotCount = slotCounts j.children + if j.takesSlot then 1 else 0 := by
  unfold slotCount
  rw [nodes_eq, List.countP_cons]
  rfl

theorem slotCounts_nil : slotCounts [] = 0 := rfl

theorem slotCounts_cons (j : Json) (js : List Json) :
    slotCounts (j :: js) = j.slotCount + slotCounts js := by
  unfold slotCounts
  rw [List.flatMap_cons, List.countP_append]
  rfl

theorem value_eq_of_takes {n : Nat} (h : Takes (seed j) v n) : j.value = v := by
  obtain ⟨p', hrun, -⟩ := h .empty
  exact congrArg Prod.fst hrun

theorem takes_seedItems (h : ∀ i ∈ items, Takes (seed i) i.value i.slotCount) :
    Takes (seedItems items) (items.map value) (slotCounts items) := by
  induction items with
  | nil => exact .pure []
  | cons j items ih =>
      obtain ⟨hj, hitems⟩ := List.forall_mem_cons.mp h
      rw [slotCounts_cons]
      exact hj.bind ((ih hitems).map (j.value :: ·))

/-- The members of an object are seeded in order of their keys, and keep them. -/
theorem takes_seedMembers {bound : Option String} {members : Dict Json bound}
    (h : ∀ i ∈ members.values, Takes (seed i) i.value i.slotCount) :
    Takes (seedMembers members) (Dict.mapValues value members) (slotCounts members.values) := by
  induction members with
  | nil => exact .pure Dict.nil
  | cons key j above members ih =>
      obtain ⟨hj, hmembers⟩ := List.forall_mem_cons.mp h
      rw [Dict.values_cons, slotCounts_cons]
      exact hj.bind ((ih hmembers).map (Dict.cons key j.value above))

/-! ### The value of a document -/

theorem takes_array (h : ∀ i ∈ items, Takes (seed i) i.value i.slotCount) :
    Takes (seed (.array items)) (.of (.list (.owned (items.map value))))
      (slotCount (.array items)) := by
  rw [slotCount_eq]
  exact (takes_seedItems h).bind (.create rfl)

theorem takes_object {members : Dict Json}
    (h : ∀ i ∈ members.values, Takes (seed i) i.value i.slotCount) :
    Takes (seed (.object members)) (.of (.map (.owned (Dict.mapValues value members))))
      (slotCount (.object members)) := by
  rw [slotCount_eq]
  exact (takes_seedMembers h).bind (.create rfl)

theorem takes_string (s : String) :
    Takes (seed (.string s)) (.ofText (.narrow s)) (slotCount (.string s)) := by
  rw [slotCount_eq]
  exact .create rfl

/-- A document with no parts that is kept nowhere leaves the pool as it is. -/
theorem takes_scalar (hchildren : j.children = []) (hslot : j.takesSlot = false)
    (hseed : seed j = pure v) : Takes (seed j) v j.slotCount := by
  rw [slotCount_eq, hchildren, hslot, hseed]
  exact .pure v

/-- Every document becomes one value, whatever the pool. -/
theorem takes_value : ∀ j : Json, Takes (seed j) j.value j.slotCount := by
  refine induct fun j ih => ?_
  have hvalue : ∀ v, Takes (seed j) v j.slotCount → Takes (seed j) j.value j.slotCount :=
    fun v h => value_eq_of_takes h ▸ h
  cases j with
  | null => exact hvalue _ (takes_scalar rfl rfl rfl)
  | bool b => exact hvalue _ (takes_scalar rfl rfl rfl)
  | number n => cases n <;> exact hvalue _ (takes_scalar rfl rfl rfl)
  | string s => exact hvalue _ (takes_string s)
  | array items => exact hvalue _ (takes_array ih)
  | object members => exact hvalue _ (takes_object ih)

theorem value_array (items : List Json) :
    value (.array items) = .of (.list (.owned (items.map value))) :=
  value_eq_of_takes (takes_array fun i _ => takes_value i)

theorem value_object (members : Dict Json) :
    value (.object members) = .of (.map (.owned (Dict.mapValues value members))) :=
  value_eq_of_takes (takes_object fun i _ => takes_value i)

theorem run_seed_fst (j : Json) (p : Pool) : ((seed j).run p).1 = j.value := by
  obtain ⟨p', hrun, -⟩ := takes_value j p
  rw [hrun]

theorem size_run_seed (j : Json) (p : Pool) : ((seed j).run p).2.size = p.size + j.slotCount := by
  obtain ⟨p', hrun, hsize⟩ := takes_value j p
  rw [hrun, hsize]

/-! ### Reading it back -/

/-- What a document becomes reads as the document. -/
theorem toJson?_value : ∀ j : Json, j.value.toJson? = some j := by
  refine induct fun j ih => ?_
  cases j with
  | null => rfl
  | bool b => rfl
  | number n => cases n <;> rfl
  | string s => rfl
  | array items =>
      have hitem : ∀ i ∈ items, i.value.toJson? = some (id i) := ih
      have hitems : (items.map value).mapM Value.toJson? = some items := by
        rw [mapM_map_eq_some hitem, List.map_id]
      rw [value_array, Value.toJson?_list rfl]
      exact congrArg (Option.map array) hitems
  | object members =>
      have hmember : ∀ m ∈ members.entries,
          (((Dict.get? m.1 (Dict.mapValues value members)).getD .empty).toJson?).map (m.1, ·) =
            some (id m) := by
        intro m hm
        rw [Dict.get?_mapValues, Dict.get?_eq_some_iff_mem.mpr hm, Option.map_some,
          Option.getD_some, ih m.2 (List.mem_map_of_mem hm)]
        rfl
      have hmembers : ((Dict.mapValues value members).keys.mapM fun key =>
          (((Dict.get? key (Dict.mapValues value members)).getD .empty).toJson?).map (key, ·)) =
            some members.entries := by
        rw [Dict.keys_mapValues, Dict.keys, mapM_map_eq_some hmember, List.map_id]
      rw [value_object, Value.toJson?_map rfl]
      refine (congrArg (Option.map fun members => object (.ofList members)) hmembers).trans ?_
      rw [Option.map_some, Dict.ofList_entries]

/-! ### The scope of an object

A scope is the dictionary of the map that seeding the object makes.  The one difference
is the slot of the map itself, which a scope does without; the members take theirs.
-/

/-- A scope binds the keys of a map, each to what subscripting the map by it gives. -/
def BindsMembers (scope : Dict Value) (v : Value) : Prop :=
  ∃ m, v.data = .map m ∧ m.keys = Dict.keys scope ∧
    ∀ (t : Text) (c : Context), t.toPlain ∈ Dict.keys scope →
      ∃ u, Dict.get? t.toPlain scope = some u ∧ v.subscript (.ofText t) c = some (u, c)

theorem bindsMembers_of_owned (scope : Dict Value) :
    BindsMembers scope (.of (.map (.owned scope))) := by
  refine ⟨_, rfl, rfl, fun t c ht => ?_⟩
  obtain ⟨u, hu⟩ := Option.isSome_iff_exists.mp (Dict.contains_iff_mem_keys.mpr ht)
  refine ⟨u, hu, ?_⟩
  show some ((Dict.get? t.toPlain scope).getD .empty, c) = _
  rw [hu, Option.getD_some]

/-- The scope of an object is what its map holds, and takes every slot but the one of the map. -/
theorem run_seedScope_object (members : Dict Json) (p : Pool) :
    ((seedScope (.object members)).run p).1 = Dict.mapValues value members ∧
      ((seedScope (.object members)).run p).2.size + 1 = p.size + slotCount (.object members) := by
  have hmembers : Takes (seedMembers members) _ _ := takes_seedMembers fun i _ => takes_value i
  obtain ⟨p', hrun, hsize⟩ := hmembers p
  have hscope : (seedScope (.object members)).run p = (Dict.mapValues value members, p') := hrun
  rw [hscope, slotCount_eq]
  exact ⟨rfl, congrArg (· + 1) hsize⟩

/--
**Seeding a pool with a document loses nothing.**  What a document becomes reads as the
document, so no two documents become the same value, and the pool grows by one slot for each
string, array and object.  The scope of an object has the keys of the object and binds each of
them to what it reads in the map that the object becomes, for one slot less.  Any other
document stands for an empty scope and takes nothing for it.
-/
theorem seeding_keeps_documents (j : Json) (p : Pool) :
    ((seed j).run p).1.toJson? = some j ∧
    (∀ j' p', ((seed j').run p').1 = ((seed j).run p).1 → j' = j) ∧
    ((seed j).run p).2.size = p.size + j.slotCount ∧
    (∀ members p', j = .object members →
      Dict.keys ((seedScope j).run p').1 = Dict.keys members ∧
      BindsMembers ((seedScope j).run p').1 ((seed j).run p).1 ∧
      ((seedScope j).run p').2.size + 1 = p'.size + j.slotCount) ∧
    ((∀ members, j ≠ .object members) → (seedScope j).run p = (.nil, p)) := by
  refine ⟨?_, fun j' p' hsame => ?_, size_run_seed j p, fun members p' hobject => ?_,
    fun hother => ?_⟩
  · rw [run_seed_fst]
    exact toJson?_value j
  · rw [run_seed_fst, run_seed_fst] at hsame
    have hread := toJson?_value j'
    rw [hsame, toJson?_value j] at hread
    exact (Option.some.inj hread).symm
  · subst hobject
    obtain ⟨hscope, hsize⟩ := run_seedScope_object members p'
    rw [hscope, run_seed_fst, value_object]
    exact ⟨Dict.keys_mapValues value members, bindsMembers_of_owned _, hsize⟩
  · cases j with
    | object members => exact absurd rfl (hother members)
    | _ => rfl

/-- A list with a null and an object in it, and a flag. -/
def flaggedList : Json :=
  .object (.ofList
    [("list", .array [.string "a", .null,
      .object (.ofList [("n", .number (.whole Int64.minValue))])]),
     ("on", .bool true)])

/-- Two objects, an array and a string take four slots; the scope leaves out the outermost. -/
theorem seeding_keeps_documents_nested :
    ((seed flaggedList).run .empty).1.toJson? = some flaggedList ∧
      ((seed flaggedList).run .empty).2.size = 4 ∧
      ((seedScope flaggedList).run .empty).2.size + 1 = 4 := by
  have hinner : (Dict.ofList [("n", number (.whole Int64.minValue))]).values =
      [.number (.whole Int64.minValue)] := rfl
  have houter : flaggedList.children = [.array [.string "a", .null,
      .object (.ofList [("n", .number (.whole Int64.minValue))])], .bool true] := rfl
  have hcount : flaggedList.slotCount = 4 := by
    rw [slotCount_eq, houter]
    simp [hinner, flaggedList, slotCount_eq, slotCounts_cons, slotCounts_nil, children, takesSlot]
  obtain ⟨hread, -, hsize, hscope, -⟩ := seeding_keeps_documents flaggedList .empty
  obtain ⟨-, -, hscope⟩ := hscope _ .empty rfl
  rw [hcount] at hsize hscope
  exact ⟨hread, hsize, hscope⟩

end Json

end TemplateExpr
