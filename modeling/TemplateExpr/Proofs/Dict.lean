/-
What a dictionary built from entries holds.

The keys of a dictionary are in strict order, so it has one entry for each key, and
looking a key up is the same as finding its entry.  Building a dictionary lets the last
entry of a key win; where the keys of the entries are distinct there is nothing to win,
and the dictionary holds exactly the entries it was built from.

What a list of entries means is `List.lookup`, of the entries from their end.  A
dictionary built from them agrees with that at every key, and being determined by its
lookups it needs no other description.
-/
import Mathlib.Data.String.Basic
import Mathlib.Data.List.Nodup
import TemplateExpr.Dict

namespace TemplateExpr

/-! ### Entries in any order

Arguments reach a function as entries that need not be in order and may repeat a key.
Looking a key up finds its first entry, which is the only one if the keys are distinct.
-/

section

variable {α : Type} {key : String} {a : α} {entries : List (String × α)}

theorem lookup_cons_eq_ite (key k : String) (a : α) (entries : List (String × α)) :
    ((k, a) :: entries).lookup key = if k = key then some a else entries.lookup key := by
  rw [List.lookup_cons]
  by_cases h : k = key
  · simp [h]
  · simp [h, beq_false_of_ne (Ne.symm h)]

theorem mem_of_lookup_eq_some (h : entries.lookup key = some a) : (key, a) ∈ entries := by
  obtain ⟨before, after, rfl, -⟩ := List.lookup_eq_some_iff.mp h
  exact List.mem_append_right before List.mem_cons_self

theorem isSome_lookup_iff_mem : (entries.lookup key).isSome = true ↔ key ∈ entries.map (·.1) := by
  rw [List.lookup_isSome_iff, List.mem_map]
  exact exists_congr fun e => and_congr_right fun _ => by rw [beq_iff_eq, eq_comm]

theorem lookup_eq_none_iff_notMem : entries.lookup key = none ↔ key ∉ entries.map (·.1) := by
  rw [← isSome_lookup_iff_mem, Option.not_isSome_iff_eq_none]

/-- With one entry for each key, an entry is what its key reads as. -/
theorem lookup_eq_some_iff_mem (hd : (entries.map (·.1)).Nodup) :
    entries.lookup key = some a ↔ (key, a) ∈ entries := by
  refine ⟨mem_of_lookup_eq_some, fun h => ?_⟩
  obtain ⟨before, after, rfl⟩ := List.append_of_mem h
  refine List.lookup_eq_some_iff.mpr ⟨before, after, rfl, fun e he => bne_iff_ne.mpr ?_⟩
  rw [List.map_append, List.map_cons, List.nodup_append] at hd
  exact fun heq => hd.2.2 e.1 (List.mem_map_of_mem he) key List.mem_cons_self heq.symm

theorem lookup_mapValues {β : Type} (f : α → β) (key : String) (entries : List (String × α)) :
    (entries.map fun e => (e.1, f e.2)).lookup key = (entries.lookup key).map f := by
  induction entries with
  | nil => rfl
  | cons e entries ih =>
      obtain ⟨k, a⟩ := e
      rw [List.map_cons, lookup_cons_eq_ite, lookup_cons_eq_ite, ih]
      split <;> rfl

/-- Entries kept by their keys are found as before. -/
theorem lookup_filter_key (p : String → Bool) (key : String) (entries : List (String × α)) :
    (entries.filter fun e => p e.1).lookup key = if p key then entries.lookup key else none := by
  induction entries with
  | nil => simp
  | cons e entries ih =>
      obtain ⟨k, a⟩ := e
      by_cases hk : k = key
      · subst hk
        cases hp : p k <;> simp [hp, ih]
      · cases hp : p k <;> simp [hp, hk, lookup_cons_eq_ite, ih]

end

namespace Dict

variable {α : Type} {bound : Option String}

/-! ### The keys are in order

The order is read off the type: every entry of a dictionary lies above its bound, and
the entries behind an entry form a dictionary that is bounded by its key.
-/

theorem above_of_mem_keys {d : Dict α bound} {key : String} (h : key ∈ d.keys) :
    Above bound key := by
  induction d with
  | nil => exact absurd h List.not_mem_nil
  | cons k a above rest ih =>
      rcases List.mem_cons.mp h with rfl | h
      · exact above
      · exact fun b hb => lt_trans (above b hb) (ih h k rfl)

theorem sorted_keys (d : Dict α bound) : d.keys.Pairwise (· < ·) := by
  induction d with
  | nil => exact .nil
  | cons k a above rest ih => exact .cons (fun key h => above_of_mem_keys h k rfl) ih

theorem nodup_keys (d : Dict α bound) : d.keys.Nodup := d.sorted_keys.imp fun hlt => ne_of_lt hlt

/-! ### Looking up is finding the entry -/

theorem get?_eq_some_iff_mem {d : Dict α bound} {key : String} {a : α} :
    get? key d = some a ↔ (key, a) ∈ d.entries :=
  lookup_eq_some_iff_mem d.nodup_keys

theorem contains_iff_mem_keys {key : String} {d : Dict α bound} :
    contains key d = true ↔ key ∈ d.keys :=
  isSome_lookup_iff_mem

theorem mem_values_of_get? {key : String} {a : α} {d : Dict α bound} (h : get? key d = some a) :
    a ∈ d.values :=
  List.mem_map_of_mem (f := (·.2)) (get?_eq_some_iff_mem.mp h)

theorem get?_mapValues {β : Type} (f : α → β) (key : String) (d : Dict α bound) :
    get? key (mapValues f d) = (get? key d).map f := by
  rw [get?, entries_mapValues, lookup_mapValues, get?]

theorem mapValues_id (d : Dict α bound) : mapValues id d = d := by
  induction d with
  | nil => rfl
  | cons k a above rest ih => rw [mapValues, ih, id]

theorem sizeOf_lt_of_mem_values [SizeOf α] {d : Dict α bound} {a : α} (h : a ∈ d.values) :
    sizeOf a < sizeOf d := by
  induction d with
  | nil => exact absurd h List.not_mem_nil
  | cons k b above rest ih =>
      rw [cons.sizeOf_spec]
      rcases List.mem_cons.mp h with rfl | h
      · omega
      · have hlt := ih h
        omega

/-- A dictionary is nothing but its entries. -/
theorem ext_entries {d d' : Dict α bound} (h : d.entries = d'.entries) : d = d' := by
  induction d with
  | nil =>
      cases d' with
      | nil => rfl
      | cons k a above rest => exact absurd h (by simp [entries])
  | cons k a above rest ih =>
      cases d' with
      | nil => exact absurd h (by simp [entries])
      | cons k' a' above' rest' =>
          obtain ⟨he, hrest⟩ := List.cons.inj h
          obtain ⟨rfl, rfl⟩ := Prod.mk.inj he
          rw [ih hrest]

/-! ### What a built dictionary holds

Entries are stored in turn, so a dictionary built from them reads as the entries do from
their end.
-/

theorem get?_insertAll (key : String) (entries : List (String × α)) (d : Dict α) :
    get? key (insertAll entries d) = (entries.reverse.lookup key).or (get? key d) := by
  induction entries generalizing d with
  | nil => rfl
  | cons e entries ih =>
      obtain ⟨k, a⟩ := e
      show get? key (insertAll entries (insert k a d)) = _
      rw [ih, get?_insert, List.reverse_cons, List.lookup_append, Option.or_assoc,
        lookup_cons_eq_ite]
      by_cases h : k = key <;> simp [h]

/-- The last entry of a key wins. -/
theorem get?_ofList (key : String) (entries : List (String × α)) :
    get? key (ofList entries) = entries.reverse.lookup key := by
  rw [ofList, get?_insertAll, get?_nil, Option.or_none]

/-- What a key reads as is in the last entry it was given. -/
theorem get?_ofList_eq_some_iff_last {key : String} {a : α} {entries : List (String × α)} :
    get? key (ofList entries) = some a ↔
      ∃ before after, entries = before ++ (key, a) :: after ∧ key ∉ after.map (·.1) := by
  rw [get?_ofList, List.lookup_eq_some_iff]
  constructor
  · intro h
    obtain ⟨after, before, hsplit, hafter⟩ := h
    refine ⟨before.reverse, after.reverse, ?_, fun hmem => ?_⟩
    · rw [← List.reverse_reverse entries, hsplit]
      simp
    · obtain ⟨e, he, heq⟩ := List.mem_map.mp hmem
      exact bne_iff_ne.mp (hafter e (List.mem_reverse.mp he)) heq.symm
  · intro h
    obtain ⟨before, after, rfl, hafter⟩ := h
    refine ⟨after.reverse, before.reverse, by simp, fun e he => bne_iff_ne.mpr fun heq => hafter ?_⟩
    exact heq ▸ List.mem_map_of_mem (List.mem_reverse.mp he)

theorem get?_ofList_eq_none_iff {key : String} {entries : List (String × α)} :
    get? key (ofList entries) = none ↔ key ∉ entries.map (·.1) := by
  rw [get?_ofList, lookup_eq_none_iff_notMem, List.map_reverse, List.mem_reverse]

/-- Entries with distinct keys are all there, and nothing else is. -/
theorem get?_ofList_eq_some_iff {entries : List (String × α)} (hd : (entries.map (·.1)).Nodup)
    {key : String} {a : α} : get? key (ofList entries) = some a ↔ (key, a) ∈ entries := by
  have hrev : (entries.reverse.map (·.1)).Nodup := by
    rw [List.map_reverse]
    exact List.nodup_reverse.mpr hd
  rw [get?_ofList, lookup_eq_some_iff_mem hrev, List.mem_reverse]

/-- Entries that are in order already are the entries of the dictionary built from them. -/
theorem entries_ofList {entries : List (String × α)} (h : (entries.map (·.1)).Pairwise (· < ·)) :
    (ofList entries).entries = entries := by
  have hd : (entries.map (·.1)).Nodup := h.imp fun hlt => ne_of_lt hlt
  have hperm : (ofList entries).entries.Perm entries := by
    refine (List.perm_ext_iff_of_nodup (nodup_keys _).of_map hd.of_map).mpr fun e => ?_
    rw [← get?_eq_some_iff_mem, get?_ofList_eq_some_iff hd]
  refine hperm.eq_of_pairwise ?_ (List.pairwise_map.mp (sorted_keys _)) (List.pairwise_map.mp h)
  exact fun e e' _ _ hlt hgt => absurd hgt (lt_asymm hlt)

theorem entries_ofList_filter (d : Dict α) (p : String × α → Bool) :
    (ofList (d.entries.filter p)).entries = d.entries.filter p :=
  entries_ofList (d.sorted_keys.sublist (List.Sublist.map Prod.fst List.filter_sublist))

theorem ofList_entries (d : Dict α) : ofList d.entries = d :=
  ext_entries (entries_ofList d.sorted_keys)

end Dict

end TemplateExpr
