/-
One recursion over values.

A value holds values as the elements of a list, in positions that may have none, as the
values of a map, and in what it was read out of.  `fold` goes through all of these: it
is told what to make of a payload whose values have been replaced already, and makes
that of a value from the inside out.

Taking the marks off a value, putting its texts in another width, looking at its content
only and reading it as a document are folds.  What a fold makes of a value is said once,
by `fold_mk`, in terms of the map of each kind of container.
-/
import TemplateExpr.Proofs.Dict
import TemplateExpr.Value.Basic

namespace TemplateExpr

/-! ### Containers with their values replaced

`map` on a payload replaces the values it holds.  Keys, positions and holes stay where
they are, so what a container finds in a place is what was there, replaced.
-/

/-- A function that changes the elements of a list one after the other maps it. -/
theorem eq_map_of_cons {α β : Type} {f : α → β} {fs : List α → List β} (hnil : fs [] = [])
    (hcons : ∀ a l, fs (a :: l) = f a :: fs l) (l : List α) : fs l = l.map f := by
  induction l with
  | nil => exact hnil
  | cons a l ih => rw [hcons, ih, List.map_cons]

section

variable {α β : Type} (f : α → β)

def ListSource.map : ListSource α → ListSource β
  | .owned items => .owned (items.map f)
  | .progression count first step => .progression count first step
  | .sparse slots => .sparse (slots.map (Option.map f))

def MapSource.map : MapSource α → MapSource β
  | .owned entries => .owned (Dict.mapValues f entries)
  | .keyed keys entries => .keyed keys (Dict.mapValues f entries)

def Payload.mapHeld : Payload α → Payload β
  | .empty => .empty
  | .bool b => .bool b
  | .int i => .int i
  | .double d => .double d
  | .text t => .text t
  | .list l => .list (ListSource.map f l)
  | .map m => .map (MapSource.map f m)
  | .function id => .function id
  | .builtin b => .builtin b

end

namespace MapSource

variable {α β : Type} (f : α → β) (m : MapSource α)

@[simp] theorem keys_map : (m.map f).keys = m.keys := by
  cases m with
  | owned entries => exact Dict.keys_mapValues f entries
  | keyed keys entries => rfl

@[simp] theorem isEmpty_map : (m.map f).isEmpty = m.isEmpty := by
  unfold isEmpty
  rw [keys_map]

theorem get?_map (key : String) : (m.map f).get? key = (m.get? key).map f := by
  cases m with
  | owned entries => exact Dict.get?_mapValues f key entries
  | keyed keys entries => exact Dict.get?_mapValues f key entries

theorem hasKey_map (key : String) : (m.map f).hasKey key = m.hasKey key := by
  unfold hasKey
  rw [get?_map, Option.isSome_map]

end MapSource

namespace ListSource

/-- The elements in order, where `term` says what stands for an integer of a progression. -/
def itemsBy {α : Type} (term : Int64 → α) : ListSource α → List α
  | .owned items => items
  | .progression count first step =>
    (List.range count).map fun i => term (ListSource.term first step i)
  | .sparse slots => slots.filterMap id

theorem items_eq (l : ListSource Value) : l.items = l.itemsBy .ofInt := by
  cases l <;> rfl

variable {β : Type} (f : Value → β) (l : ListSource Value)

/-- The elements of a list with its values replaced are its elements, replaced. -/
theorem itemsBy_map {term : Int64 → β} (hint : ∀ i, f (.ofInt i) = term i) :
    (l.map f).itemsBy term = l.items.map f := by
  cases l with
  | owned items => rfl
  | progression count first step => simp [map, items, itemsBy, hint]
  | sparse slots =>
      simp only [map, items, itemsBy]
      induction slots with
      | nil => rfl
      | cons slot slots ih =>
          cases slot with
          | none => exact ih
          | some v => exact congrArg (f v :: ·) ih

end ListSource

/-! ### Folding

The recursion has to name each place a value may stand in, so it consists of one function
for each kind of container.  All of them but `Value.fold` are maps, which is why only
`Value.fold` is spoken of further on.
-/

mutual

/-- What `f` makes of a value from the inside out: of its payload, its mark and its parent. -/
def Value.fold {β : Type} (f : Payload β → Bool → Option β → β) : (v : Value) → β
  | ⟨data, temporary, parent⟩ => f (Payload.fold f data) temporary (Value.foldSlot f parent)
termination_by structural v => v

def Payload.fold {β : Type} (f : Payload β → Bool → Option β → β) : (p : Payload Value) → Payload β
  | .empty => .empty
  | .bool b => .bool b
  | .int i => .int i
  | .double d => .double d
  | .text t => .text t
  | .list l => .list (ListSource.fold f l)
  | .map m => .map (MapSource.fold f m)
  | .function id => .function id
  | .builtin b => .builtin b
termination_by structural p => p

def ListSource.fold {β : Type} (f : Payload β → Bool → Option β → β) :
    (l : ListSource Value) → ListSource β
  | .owned items => .owned (Value.foldEach f items)
  | .progression count first step => .progression count first step
  | .sparse slots => .sparse (Value.foldSlots f slots)
termination_by structural l => l

def Value.foldEach {β : Type} (f : Payload β → Bool → Option β → β) : (vs : List Value) → List β
  | [] => []
  | v :: vs => v.fold f :: Value.foldEach f vs
termination_by structural vs => vs

def Value.foldSlots {β : Type} (f : Payload β → Bool → Option β → β) :
    (vs : List (Option Value)) → List (Option β)
  | [] => []
  | v :: vs => Value.foldSlot f v :: Value.foldSlots f vs
termination_by structural vs => vs

def Value.foldSlot {β : Type} (f : Payload β → Bool → Option β → β) : (v : Option Value) → Option β
  | none => none
  | some v => some (v.fold f)
termination_by structural v => v

def MapSource.fold {β : Type} (f : Payload β → Bool → Option β → β) :
    (m : MapSource Value) → MapSource β
  | .owned entries => .owned (Value.foldEntries f entries)
  | .keyed keys entries => .keyed keys (Value.foldEntries f entries)
termination_by structural m => m

def Value.foldEntries {β : Type} (f : Payload β → Bool → Option β → β) :
    {bound : Option String} → (entries : Dict Value bound) → Dict β bound
  | _, .nil => .nil
  | _, .cons key v above entries => .cons key (v.fold f) above (Value.foldEntries f entries)
termination_by structural _ entries => entries

end

section

variable {β : Type} (f : Payload β → Bool → Option β → β)

private theorem foldSlot_eq (slot : Option Value) :
    Value.foldSlot f slot = slot.map (Value.fold f) := by
  cases slot <;> rfl

private theorem foldEach_eq (vs : List Value) : Value.foldEach f vs = vs.map (Value.fold f) :=
  eq_map_of_cons rfl (fun _ _ => rfl) vs

private theorem foldSlots_eq (slots : List (Option Value)) :
    Value.foldSlots f slots = slots.map (Option.map (Value.fold f)) :=
  eq_map_of_cons rfl (fun slot _ => by rw [Value.foldSlots, foldSlot_eq]) slots

private theorem foldEntries_eq {bound : Option String} (entries : Dict Value bound) :
    Value.foldEntries f entries = Dict.mapValues (Value.fold f) entries := by
  induction entries with
  | nil => rfl
  | cons key v above entries ih => exact congrArg (Dict.cons key (v.fold f) above) ih

theorem Payload.fold_eq (p : Payload Value) : p.fold f = p.mapHeld (Value.fold f) := by
  cases p with
  | list l =>
      cases l with
      | owned items => exact congrArg (Payload.list ∘ ListSource.owned) (foldEach_eq f items)
      | progression count first step => rfl
      | sparse slots => exact congrArg (Payload.list ∘ ListSource.sparse) (foldSlots_eq f slots)
  | map m =>
      cases m with
      | owned entries => exact congrArg (Payload.map ∘ MapSource.owned) (foldEntries_eq f entries)
      | keyed keys entries =>
          exact congrArg (Payload.map ∘ MapSource.keyed keys) (foldEntries_eq f entries)
  | _ => rfl

/-- A fold makes of a value what it is told to make of the folds of everything in it. -/
theorem Value.fold_mk (data : Payload Value) (temporary : Bool) (parent : Option Value) :
    (Value.mk data temporary parent).fold f =
      f (data.mapHeld (Value.fold f)) temporary (parent.map (Value.fold f)) := by
  rw [Value.fold, Payload.fold_eq, foldSlot_eq]

end

end TemplateExpr
