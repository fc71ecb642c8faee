/-
Dictionaries with their keys in order.

A dictionary holds its entries in strict order of their keys, by code point, so it has
one entry for each key.  The type itself sees to that: an entry is put in front of
entries whose keys are known to lie above its own, and a dictionary that is out of
order, or has a key twice, cannot be written down.

Building one from entries lets the last entry of a key win.  Its order is the order
arguments are evaluated and maps are written in.
-/
namespace TemplateExpr

/-- Whether a key lies above a bound, where there is one. -/
def Above (bound : Option String) (key : String) : Prop := ∀ k ∈ bound, k < key

theorem above_none (key : String) : Above none key := nofun

theorem above_some {k key : String} (h : k < key) : Above (some k) key := by
  rintro _ ⟨⟩
  exact h

/-- Entries in strict order of their keys, all of them above the bound if one is given. -/
inductive Dict (α : Type) : (bound : Option String := none) → Type where
  | nil {bound : Option String} : Dict α bound
  | cons {bound : Option String} (key : String) (a : α) (above : Above bound key)
      (rest : Dict α (some key)) : Dict α bound

namespace Dict

variable {α : Type}

/-- The entries in order of their keys. -/
def entries : {bound : Option String} → Dict α bound → List (String × α)
  | _, nil => []
  | _, cons key a _ rest => (key, a) :: rest.entries

section

variable {bound : Option String}

def keys (d : Dict α bound) : List String := d.entries.map (·.1)

def values (d : Dict α bound) : List α := d.entries.map (·.2)

/-- The value stored under a key. -/
def get? (key : String) (d : Dict α bound) : Option α := d.entries.lookup key

def contains (key : String) (d : Dict α bound) : Bool := (get? key d).isSome

end

/-- Applies a function to every value and keeps the keys. -/
def mapValues {β : Type} (f : α → β) : {bound : Option String} → Dict α bound → Dict β bound
  | _, nil => nil
  | _, cons key a above rest => cons key (f a) above (mapValues f rest)

/-! ### Writing

A new entry goes in front of the first key above its own.  The keys it has passed by
then lie below it, and the last of them is the bound it has to stand above.
-/

/-- Stores a value under a key above the bound, replacing the one that was there. -/
def insertAbove (key : String) (a : α) :
    {bound : Option String} → Above bound key → Dict α bound → Dict α bound
  | _, above, nil => cons key a above nil
  | _, above, cons k b hk rest =>
    if heq : key = k then cons k a hk rest
    else if hlt : key < k then cons key a above (cons k b (above_some hlt) rest)
    else
      have hgt : k < key := Std.lt_of_le_of_ne (String.not_lt.mp hlt) (Ne.symm heq)
      cons k b hk (insertAbove key a (above_some hgt) rest)

/-- Stores a value under a key, replacing the one that was there. -/
def insert (key : String) (a : α) (d : Dict α) : Dict α := insertAbove key a (above_none key) d

/-- Stores entries one after the other, so the last one of a key wins. -/
def insertAll (entries : List (String × α)) (d : Dict α) : Dict α :=
  entries.foldl (fun d e => insert e.1 e.2 d) d

/-- The dictionary of a list of entries. -/
def ofList (entries : List (String × α)) : Dict α := insertAll entries nil

/-! ### Reading -/

section

variable {bound : Option String}

@[simp] theorem keys_cons (key : String) (a : α) (above : Above bound key)
    (rest : Dict α (some key)) : (cons key a above rest).keys = key :: rest.keys := rfl

@[simp] theorem values_cons (key : String) (a : α) (above : Above bound key)
    (rest : Dict α (some key)) : (cons key a above rest).values = a :: rest.values := rfl

@[simp] theorem get?_nil (key : String) : get? key (nil : Dict α bound) = none := rfl

@[simp] theorem get?_cons (key k : String) (a : α) (above : Above bound k)
    (rest : Dict α (some k)) :
    get? key (cons k a above rest) = if k = key then some a else get? key rest := by
  show ((k, a) :: rest.entries).lookup key = _
  rw [List.lookup_cons]
  by_cases h : k = key
  · simp [h]
  · simp [h, beq_false_of_ne (Ne.symm h), get?]

theorem get?_insertAbove (key key' : String) (a : α) (above : Above bound key) (d : Dict α bound) :
    get? key' (insertAbove key a above d) = if key = key' then some a else get? key' d := by
  induction d with
  | nil => simp [insertAbove]
  | cons k b hk rest ih =>
    unfold insertAbove
    by_cases heq : key = k
    · subst heq
      by_cases h : key = key' <;> simp [h]
    · by_cases hlt : key < k
      · rw [dif_neg heq, dif_pos hlt, get?_cons, get?_cons, get?_cons]
      · rw [dif_neg heq, dif_neg hlt, get?_cons, ih, get?_cons]
        by_cases h : k = key'
        · subst h
          simp [heq]
        · simp [h]

/-- A key reads as what was stored under it last. -/
theorem get?_insert (key key' : String) (a : α) (d : Dict α) :
    get? key' (insert key a d) = if key = key' then some a else get? key' d :=
  get?_insertAbove key key' a (above_none key) d

theorem entries_mapValues {β : Type} (f : α → β) (d : Dict α bound) :
    (mapValues f d).entries = d.entries.map fun e => (e.1, f e.2) := by
  induction d with
  | nil => rfl
  | cons k a above rest ih => exact congrArg ((k, f a) :: ·) ih

@[simp] theorem keys_mapValues {β : Type} (f : α → β) (d : Dict α bound) :
    (mapValues f d).keys = d.keys := by
  simp [keys, entries_mapValues]

end

end Dict

end TemplateExpr
