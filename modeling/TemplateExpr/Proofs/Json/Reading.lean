/-
Documents, and values that read as documents.

A document is looked at through its nodes, which are itself and everything inside it.  A
value reads as a document the way it is seen from outside: a list by its elements in order,
a map by its keys and what it has for each of them.  Functions are no documents, and
neither is a container that holds one.
-/
import TemplateExpr.Json.Basic
import TemplateExpr.Proofs.Values.Fold

namespace TemplateExpr

namespace Json

/-! ### The nodes of a document

What holds of a document because of the documents inside it, at any depth, is proved by
`induct`.  The nodes are
what is counted: a document itself, and the nodes of each document inside it.
-/

/-- The documents directly inside a document. -/
def children : Json → List Json
  | .array items => items
  | .object members => members.values
  | _ => []

theorem sizeOf_children {j i : Json} (h : i ∈ j.children) : sizeOf i < sizeOf j := by
  cases j with
  | array items =>
      have hlt : sizeOf i < sizeOf items := List.sizeOf_lt_of_mem h
      rw [array.sizeOf_spec]
      omega
  | object members =>
      have hlt := Dict.sizeOf_lt_of_mem_values (d := members) h
      rw [object.sizeOf_spec]
      omega
  | _ => exact absurd h List.not_mem_nil

/-- Induction over documents through the documents inside them. -/
theorem induct {P : Json → Prop} (h : ∀ j, (∀ i ∈ j.children, P i) → P j) : ∀ j, P j := by
  intro j
  induction hn : sizeOf j using Nat.strongRecOn generalizing j with
  | ind n ih =>
      subst hn
      exact h j fun i hi => ih _ (sizeOf_children hi) i rfl

/-- A document and everything inside it. -/
def nodes (j : Json) : List Json := j :: j.children.attach.flatMap fun i => nodes i.1
termination_by sizeOf j
decreasing_by exact sizeOf_children i.2

theorem nodes_eq (j : Json) : j.nodes = j :: j.children.flatMap nodes := by
  rw [nodes]
  simp

end Json

/-! ### Reading a value as a document

Only the payload of a value is read, so reading is a fold that passes over marks and
parents.  A list and a map have no reading unless everything in them has one.
-/

/-- What a payload reads as, given the readings of the values in it. -/
def Json.ofPayload? : Payload (Option Json) → Option Json
  | .empty => some .null
  | .bool b => some (.bool b)
  | .int i => some (.number (.whole i))
  | .double d => some (.number (.double d))
  | .text t => some (.string t.toPlain)
  | .list l => ((l.itemsBy fun i => some (.number (.whole i))).mapM id).map .array
  | .map m =>
    (m.keys.mapM fun key => ((m.get? key).getD (some .null)).map (key, ·)).map fun members =>
      .object (.ofList members)
  | .function _ => none
  | .builtin _ => none

/-- The document a value reads as: an empty value, and a key without a value, read as null. -/
def Value.toJson? : Value → Option Json := Value.fold fun data _ _ => Json.ofPayload? data

theorem Value.toJson?_eq (v : Value) : v.toJson? = Json.ofPayload? (v.data.mapHeld toJson?) := by
  obtain ⟨data, temporary, parent⟩ := v
  exact Value.fold_mk _ data temporary parent

theorem mapM_id_map {α β : Type} (f : α → Option β) (l : List α) :
    (l.map f).mapM id = l.mapM f := by
  induction l with
  | nil => rfl
  | cons a l ih => rw [List.map_cons, List.mapM_cons, List.mapM_cons, ih, id]

/-- Where each element of a list is read, the list is read element by element. -/
theorem mapM_map_eq_some {α β γ : Type} {f : β → Option γ} {g : α → β} {k : α → γ} {l : List α}
    (h : ∀ a ∈ l, f (g a) = some (k a)) : (l.map g).mapM f = some (l.map k) := by
  induction l with
  | nil => rfl
  | cons a l ih =>
      obtain ⟨ha, hl⟩ := List.forall_mem_cons.mp h
      rw [List.map_cons, List.mapM_cons, ha, ih hl]
      rfl

/-- A list reads as the array of its elements in order. -/
theorem Value.toJson?_list {v : Value} {l : ListSource Value} (h : v.data = .list l) :
    v.toJson? = (l.items.mapM Value.toJson?).map .array := by
  have hint : ∀ i, (Value.ofInt i).toJson? = some (.number (.whole i)) := fun _ => rfl
  rw [toJson?_eq, h]
  show (((l.map toJson?).itemsBy _).mapM id).map Json.array = _
  rw [ListSource.itemsBy_map toJson? l hint, mapM_id_map]

/-- A map reads as the object of its keys and what it has for them. -/
theorem Value.toJson?_map {v : Value} {m : MapSource Value} (h : v.data = .map m) :
    v.toJson? = (m.keys.mapM fun key =>
      (((m.get? key).getD .empty).toJson?).map (key, ·)).map fun members =>
        .object (.ofList members) := by
  have hnull : toJson? .empty = some .null := rfl
  rw [toJson?_eq, h]
  simp only [Payload.mapHeld, Json.ofPayload?, MapSource.keys_map, MapSource.get?_map,
    ← hnull, Option.getD_map]

end TemplateExpr
