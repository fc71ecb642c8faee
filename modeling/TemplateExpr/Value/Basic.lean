/-
The values an expression can have.

A value is a payload with two marks.  A *temporary* value is a scratch result nobody
else refers to, so an operator may use it again as its output.  A *parent* is the
value another one was read out of; it is kept as long as the other is.

Lists and maps are seen through sources.  An owned source holds its elements; a
progression computes each element when it is asked for, so its length may be anything
a word can count; a sparse list and a keyed map come from a host that may have no
element at a position below its length, or no value for one of its keys.

Functions are not part of a value.  A value holds a handle, and the definition behind
it is found in the library the evaluation runs with.
-/
import TemplateExpr.Dict
import TemplateExpr.Text.Basic

namespace TemplateExpr

/-- The functions of the language itself. -/
inductive Builtin where
  | range
  | cycle
  deriving DecidableEq, Repr

/-- Where the elements of a list come from. -/
inductive ListSource (α : Type) where
  /-- Elements the list holds itself. -/
  | owned (items : List α)
  /-- `count` integers, starting at `first` and `step` apart in wrapping arithmetic. -/
  | progression (count : Nat) (first step : Int64)
  /-- Positions of which some have no element. -/
  | sparse (slots : List (Option α))

/-- Where the entries of a map come from. -/
inductive MapSource (α : Type) where
  /-- Entries the map holds itself. -/
  | owned (entries : Dict α)
  /-- Keys in the order the host gives them, and the entries it finds values in. -/
  | keyed (keys : List String) (entries : Dict α)

/-- What a value is, without its marks. -/
inductive Payload (α : Type) where
  | empty
  | bool (b : Bool)
  | int (i : Int64)
  | double (d : Float)
  | text (t : Text)
  | list (l : ListSource α)
  | map (m : MapSource α)
  | function (id : Nat)
  | builtin (f : Builtin)

/-- A payload with the marks of temporary results and of values read out of others. -/
structure Value where
  data : Payload Value
  temporary : Bool
  parent : Option Value

namespace Value

/-- A value without marks. -/
def of (data : Payload Value) : Value := ⟨data, false, none⟩

def empty : Value := of .empty

instance : Inhabited Value := ⟨empty⟩

def ofBool (b : Bool) : Value := of (.bool b)
def ofInt (i : Int64) : Value := of (.int i)
def ofText (t : Text) : Value := of (.text t)

end Value

namespace ListSource

/-- The element of a progression at a position. -/
def term (first step : Int64) (i : Nat) : Int64 := first + step * Int64.ofNat i

/-- The number of positions, with those that have no element. -/
def length : ListSource Value → Nat
  | .owned items => items.length
  | .progression count _ _ => count
  | .sparse slots => slots.length

def isEmpty (l : ListSource Value) : Bool := l.length == 0

/-- The element at a position. -/
def get? : ListSource Value → Nat → Option Value
  | .owned items, i => items[i]?
  | .progression count first step, i =>
    if i < count then some (.ofInt (term first step i)) else none
  | .sparse slots, i => slots[i]?.join

/-- The elements in order; positions without one are passed over. -/
def items : ListSource Value → List Value
  | .owned items => items
  | .progression count first step => (List.range count).map fun i => .ofInt (term first step i)
  | .sparse slots => slots.filterMap id

/-- Whether some element satisfies `p`, without building the elements of a progression. -/
def any (p : Value → Bool) : ListSource Value → Bool
  | .owned items => items.any p
  | .progression count first step => Nat.any count fun i _ => p (.ofInt (term first step i))
  | .sparse slots => slots.any fun slot => slot.any p

/-- Whether values read out of the list must keep it. -/
def owns : ListSource Value → Bool
  | .owned _ => true
  | _ => false

theorem any_range (n : Nat) (f : Nat → Bool) :
    (Nat.any n fun i _ => f i) = (List.range n).any f := by
  induction n with
  | zero => rfl
  | succ n ih =>
    rw [Nat.any, List.range_succ, List.any_append, ih]
    simp

/-- Asking for some element is asking the elements in order. -/
theorem any_eq (p : Value → Bool) (l : ListSource Value) : l.any p = l.items.any p := by
  cases l with
  | owned items => rfl
  | progression count first step =>
    simp only [any, items, List.any_map]
    exact any_range count _
  | sparse slots =>
    simp only [any, items]
    induction slots with
    | nil => rfl
    | cons slot slots ih => cases slot <;> simp [ih]

end ListSource

namespace MapSource

variable {α : Type}

/-- The value of a key. -/
def get? : MapSource α → String → Option α
  | .owned entries, key => Dict.get? key entries
  | .keyed _ entries, key => Dict.get? key entries

def hasKey (m : MapSource α) (key : String) : Bool := (m.get? key).isSome

/-- The keys in the order of the map. -/
def keys : MapSource α → List String
  | .owned entries => entries.keys
  | .keyed keys _ => keys

/-- The number of keys. -/
def length (m : MapSource α) : Nat := m.keys.length

def isEmpty (m : MapSource α) : Bool := m.keys.isEmpty

/-- Whether values read out of the map must keep it. -/
def owns : MapSource α → Bool
  | .owned _ => true
  | .keyed _ _ => false

end MapSource

namespace Payload

/-- The word for what a payload is. -/
def kind : Payload Value → String
  | .empty => "empty"
  | .bool _ => "bool"
  | .int _ => "int"
  | .double _ => "double"
  | .text _ => "string"
  | .list _ => "list"
  | .map _ => "map"
  | .function _ => "callable"
  | .builtin _ => "builtin"

/-- Whether a payload is a container that holds its elements itself. -/
def owns : Payload Value → Bool
  | .list l => l.owns
  | .map m => m.owns
  | _ => false

end Payload

namespace Value

/-! ### Asking what a value is -/

def isEmpty (v : Value) : Bool :=
  match v.data with
  | .empty => true
  | _ => false

def asBool? (v : Value) : Option Bool :=
  match v.data with
  | .bool b => some b
  | _ => none

def asInt? (v : Value) : Option Int64 :=
  match v.data with
  | .int i => some i
  | _ => none

def asDouble? (v : Value) : Option Float :=
  match v.data with
  | .double d => some d
  | _ => none

def asText? (v : Value) : Option Text :=
  match v.data with
  | .text t => some t
  | _ => none

def asList? (v : Value) : Option (ListSource Value) :=
  match v.data with
  | .list l => some l
  | _ => none

def asMap? (v : Value) : Option (MapSource Value) :=
  match v.data with
  | .map m => some m
  | _ => none

def asFunction? (v : Value) : Option Nat :=
  match v.data with
  | .function id => some id
  | _ => none

def asBuiltin? (v : Value) : Option Builtin :=
  match v.data with
  | .builtin f => some f
  | _ => none

/-! ### Marks -/

/-- Marks a value as a scratch result. -/
def asTemporary (v : Value) : Value := { v with temporary := true }

/-- Gives a value another payload; what it was read out of no longer matters. -/
def setData (v : Value) (data : Payload Value) : Value := { v with data := data, parent := none }

/-- Notes the value another one was read out of. -/
def setParent (v parent : Value) : Value := { v with parent := some parent }

/-- Whether values read out of this one must keep it. -/
def extendsLifetime (v : Value) : Bool := v.parent.isSome || v.data.owns

/-- The values this one hangs off, the nearest first. -/
def parents : Value → List Value
  | ⟨_, _, none⟩ => []
  | ⟨_, _, some p⟩ => p :: p.parents

/-- Joins more text onto a value that is a text; any other value is left alone. -/
def appendText (v : Value) (t : Text) : Except TemplateError Value :=
  match v.data with
  | .text s => (s.append t).map fun joined => { v with data := .text joined }
  | _ => .ok v

end Value

end TemplateExpr
