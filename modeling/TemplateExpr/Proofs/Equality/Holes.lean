/-
Equality of lists with holes.

A host list may have no element at a position below its length.  Such a hole counts in
the length, and iterating over the list passes it over.  Equality compares the lengths and
then the elements in turn, as far as both lists go, so it says of all the elements that
they are equal in turn exactly if both lists have as many holes.
-/
import TemplateExpr.Proofs.Values.Held

namespace TemplateExpr

namespace ListSource

/-- The number of positions that have no element. -/
def holes (l : ListSource Value) : Nat :=
  (List.range l.length).countP fun i => (l.get? i).isNone

theorem filterMap_range {α β : Type} {xs : List α} {f : Nat → Option β} {g : α → Option β}
    (h : ∀ i, f i = xs[i]?.bind g) : (List.range xs.length).filterMap f = xs.filterMap g := by
  obtain rfl : f = fun i => xs[i]?.bind g := funext h
  clear h
  induction xs with
  | nil => rfl
  | cons x xs ih =>
      rw [List.length_cons, List.range_succ_eq_map, List.filterMap_cons, List.filterMap_map]
      simp only [Function.comp_def, List.getElem?_cons_succ, List.getElem?_cons_zero,
        Option.bind_some, ih, List.filterMap_cons]

/-- The elements of a list are what stands at its positions, in order. -/
theorem items_eq_filterMap (l : ListSource Value) :
    l.items = (List.range l.length).filterMap l.get? := by
  cases l with
  | owned items =>
      have h : ∀ i, (owned items).get? i = items[i]?.bind some := fun i => by simp [get?]
      rw [length, filterMap_range h, List.filterMap_some]
      rfl
  | sparse slots =>
      have h : ∀ i, (sparse slots).get? i = slots[i]?.bind id := by
        intro i
        show slots[i]?.join = _
        cases slots[i]? <;> rfl
      rw [length, filterMap_range h]
      rfl
  | progression count first step =>
      show (List.range count).map _ = (List.range count).filterMap _
      rw [← List.filterMap_eq_map]
      refine List.filterMap_congr ?_
      intro i hi
      simp [get?, List.mem_range.mp hi]

/-- Every position has an element or is a hole. -/
theorem length_items_add_holes (l : ListSource Value) : l.items.length + l.holes = l.length := by
  have hhole : (fun i => (l.get? i).isNone) = fun i => decide ¬(l.get? i).isSome = true := by
    funext i
    cases l.get? i <;> rfl
  rw [items_eq_filterMap, List.length_filterMap_eq_countP, holes, hhole,
    ← List.length_eq_countP_add_countP, List.length_range]

end ListSource

/-- Two lists are equal if they are equally long and their elements are equal as far as both go. -/
theorem Payload.equal_list_iff {a b : ListSource Value} :
    (Payload.list a).equal (.list b) = true ↔
      a.length = b.length ∧ ∀ p ∈ a.items.zip b.items, p.1.equal p.2 = true := by
  show (a.length == b.length && a.itemsEqual b) = true ↔ _
  rw [Bool.and_eq_true, beq_iff_eq]
  refine and_congr_right fun hlength => ?_
  rw [ListSource.itemsEqual_eq a b hlength, List.all_eq_true]

theorem Value.equal_eq (a b : Value) : a.equal b = a.data.equal b.data := by
  cases a
  rfl

/--
**When equal lists have equal elements.**  Two lists are equal if they are equally long and
their elements are equal in turn as far as both go.  If they are equal, then iterating over
them yields as many elements, equal in turn, exactly if they have as many holes.
-/
theorem equal_lists_correspond_iff {u v : Value} {a b : ListSource Value} (hu : u.data = .list a)
    (hv : v.data = .list b) :
    (u.equal v = true ↔ a.length = b.length ∧ ∀ p ∈ a.items.zip b.items, p.1.equal p.2 = true) ∧
    (u.equal v = true →
      (List.Forall₂ (fun x y => x.equal y = true) a.items b.items ↔ a.holes = b.holes)) := by
  have hequal : u.equal v = true ↔
      a.length = b.length ∧ ∀ p ∈ a.items.zip b.items, p.1.equal p.2 = true := by
    rw [Value.equal_eq, hu, hv, Payload.equal_list_iff]
  refine ⟨hequal, ?_⟩
  intro h
  obtain ⟨hlength, helements⟩ := hequal.mp h
  have ha := a.length_items_add_holes
  have hb := b.length_items_add_holes
  rw [List.forall₂_iff_zip]
  constructor
  · intro hall
    have hitems := hall.1
    omega
  · intro hholes
    exact ⟨by omega, fun hp => helements _ hp⟩

/-- A hole in front and a hole at the end leave the same elements. -/
theorem equal_lists_correspond_shifted :
    let a : ListSource Value := .sparse [none, some (.ofInt 1)]
    let b : ListSource Value := .sparse [some (.ofBool true), none]
    (Value.of (.list a)).equal (.of (.list b)) = true ∧
      List.Forall₂ (fun x y => x.equal y = true) a.items b.items := by
  intro a b
  obtain ⟨hequal, hall⟩ :=
    equal_lists_correspond_iff (u := .of (.list a)) (v := .of (.list b)) rfl rfl
  have h : (Value.of (.list a)).equal (.of (.list b)) = true := by
    refine hequal.mpr ⟨rfl, ?_⟩
    intro p hp
    obtain rfl : p = (.ofInt 1, .ofBool true) := by simpa [a, b, ListSource.items] using hp
    rfl
  exact ⟨h, (hall h).mpr rfl⟩

/-- A hole makes two lists equal of which one has an element more. -/
theorem hole_equals_any_element :
    let a : ListSource Value := .sparse [some (.ofInt 1), none]
    let b : ListSource Value := .sparse [some (.ofInt 1), some (.ofInt 2)]
    (Value.of (.list a)).equal (.of (.list b)) = true ∧ a.items.length ≠ b.items.length := by
  exact ⟨rfl, by decide⟩

end TemplateExpr
