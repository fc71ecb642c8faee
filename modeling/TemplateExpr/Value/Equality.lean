/-
Equality and order of values.

Equality is structural: texts are equal when their code points are, whatever their
widths; lists when they have as many positions and their elements are equal in turn;
maps when their keys agree in order and every key has equal values on both sides;
functions when they are the same one; numbers when their promoted values are.  Marks
play no part.  Only two texts or two numbers have an order.
-/
import TemplateExpr.Value.Number

namespace TemplateExpr

namespace Operands

def equal : Operands → Bool
  | .ints a b => a == b
  | .doubles a b => a == b

/-- The order of two numbers; a NaN has none. -/
def order? : Operands → Option Ordering
  | .ints a b => some (if a < b then .lt else if b < a then .gt else .eq)
  | .doubles a b =>
    if a < b then some .lt else if b < a then some .gt else if a == b then some .eq else none

end Operands

/-- Whether two payloads are numbers of the same value. -/
def Payload.sameNumber (p q : Payload Value) : Bool :=
  match p.operands? q with
  | some operands => operands.equal
  | none => false

/-- Whether the elements of a progression equal those of another list in turn. -/
def ListSource.termsEqual (count : Nat) (first step : Int64) : ListSource Value → Bool
  | .progression _ first' step' =>
    Nat.all count fun i _ => ListSource.term first step i == ListSource.term first' step' i
  | l => ((List.range count).zip l.items).all fun (i, v) =>
      (Payload.int (ListSource.term first step i)).sameNumber v.data

mutual

/-- Structural equality. -/
def Value.equal : (a b : Value) → Bool
  | ⟨data, _, _⟩, b => Payload.equal data b.data
termination_by structural a => a

def Payload.equal : (p q : Payload Value) → Bool
  | .empty, .empty => true
  | .text s, .text t => s.chars == t.chars
  | .list a, .list b => a.length == b.length && ListSource.itemsEqual a b
  | .map a, .map b =>
      a.keys == b.keys && a.keys.all fun key => MapSource.valueEqual key a (b.get? key)
  | .function f, .function g => f == g
  | .builtin f, .builtin g => f == g
  | p, q => p.sameNumber q
termination_by structural p => p

/-- Whether the elements of two lists are equal in turn, as far as both go. -/
def ListSource.itemsEqual : (a b : ListSource Value) → Bool
  | .owned items, b => Value.eachEqual items b.items
  | .progression count first step, b => ListSource.termsEqual count first step b
  | .sparse slots, b => Value.slotsEqual slots b.items
termination_by structural a => a

def Value.eachEqual : (xs ys : List Value) → Bool
  | x :: xs, y :: ys => x.equal y && Value.eachEqual xs ys
  | _, _ => true
termination_by structural xs => xs

/-- The same for positions of which some have no element. -/
def Value.slotsEqual : (xs : List (Option Value)) → (ys : List Value) → Bool
  | [], _ => true
  | x :: xs, ys =>
    match x.isSome, ys with
    | false, ys => Value.slotsEqual xs ys
    | true, y :: ys => Value.slotEqual x y && Value.slotsEqual xs ys
    | true, [] => true
termination_by structural xs => xs

def Value.slotEqual : (x : Option Value) → (y : Value) → Bool
  | some x, y => x.equal y
  | none, _ => true
termination_by structural x => x

/-- Whether a map has a value for a key that equals the given one. -/
def MapSource.valueEqual (key : String) : (a : MapSource Value) → Option Value → Bool
  | .owned entries, y => Value.entryEqual key entries y
  | .keyed _ entries, y => Value.entryEqual key entries y
termination_by structural a => a

def Value.entryEqual (key : String) :
    {bound : Option String} → (entries : Dict Value bound) → Option Value → Bool
  | _, .nil, _ => false
  | _, .cons k x _ entries, y =>
    if k = key then
      match y with
      | some y => x.equal y
      | none => false
    else Value.entryEqual key entries y
termination_by structural _ entries => entries

end

/-! ### Lists are equal element by element

Equality recurses through both values at once, with a function for each place a value
may stand in.  Over lists these functions are `zip` and `all`, and a progression is
compared term by term without being built.
-/

theorem Value.equal_ofInt (i : Int64) (v : Value) :
    (Value.ofInt i).equal v = (Payload.int i).sameNumber v.data := by
  obtain ⟨data, temporary, parent⟩ := v
  cases data <;> simp [Value.ofInt, Value.of, Value.equal, Payload.equal]

theorem Value.eachEqual_eq (xs ys : List Value) :
    Value.eachEqual xs ys = (xs.zip ys).all fun p => p.1.equal p.2 := by
  induction xs generalizing ys with
  | nil => cases ys <;> rfl
  | cons x xs ih =>
    cases ys with
    | nil => rfl
    | cons y ys => simp [Value.eachEqual, ih]

theorem Value.slotsEqual_eq (xs : List (Option Value)) (ys : List Value) :
    Value.slotsEqual xs ys = ((xs.filterMap id).zip ys).all fun p => p.1.equal p.2 := by
  induction xs generalizing ys with
  | nil => cases ys <;> rfl
  | cons x xs ih =>
    cases x with
    | none => simp [Value.slotsEqual, ih]
    | some x =>
      cases ys with
      | nil => simp [Value.slotsEqual]
      | cons y ys => simp [Value.slotsEqual, Value.slotEqual, ih]

theorem ListSource.all_range (n : Nat) (f : Nat → Bool) :
    (Nat.all n fun i _ => f i) = (List.range n).all f := by
  induction n with
  | zero => rfl
  | succ n ih =>
    rw [Nat.all, List.range_succ, List.all_append, ih]
    simp

theorem ListSource.termsEqual_eq (count : Nat) (first step : Int64) (b : ListSource Value)
    (h : count = b.length) :
    ListSource.termsEqual count first step b
      = ((ListSource.progression count first step).items.zip b.items).all fun p =>
          p.1.equal p.2 := by
  cases b with
  | progression count' first' step' =>
    cases h
    have zip_self : ∀ l : List Nat, l.zip l = l.map fun i => (i, i) := by
      intro l
      induction l with
      | nil => rfl
      | cons i l ih => simp [ih]
    simp only [termsEqual, items, length, all_range, List.zip_map, zip_self, List.map_map,
      List.all_map]
    rfl
  | owned ys =>
    simp only [termsEqual, items, List.zip_map_left, List.all_map, Function.comp_def, Prod.map,
      Value.equal_ofInt, id]
  | sparse ys =>
    simp only [termsEqual, items, List.zip_map_left, List.all_map, Function.comp_def, Prod.map,
      Value.equal_ofInt, id]

/-- The elements of two lists of one length are compared in turn, as far as both go. -/
theorem ListSource.itemsEqual_eq (a b : ListSource Value) (h : a.length = b.length) :
    a.itemsEqual b = (a.items.zip b.items).all fun p => p.1.equal p.2 := by
  cases a with
  | owned items => exact Value.eachEqual_eq items b.items
  | progression count first step => exact termsEqual_eq count first step b h
  | sparse slots => exact Value.slotsEqual_eq slots b.items

/-! ### Order -/

/-- The order of two texts by code points, or of two numbers. -/
def Value.order? (a b : Value) : Option Ordering :=
  match a.data, b.data with
  | .text s, .text t => some (compare s.chars t.chars)
  | p, q => (p.operands? q).bind Operands.order?

end TemplateExpr
