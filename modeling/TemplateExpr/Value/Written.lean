/-
The text of a value.

At the top a value is written plainly: a text as it is, the empty value as nothing.
Inside a list or a map the empty value is written `none` and a text stands between
single quotation marks, with nothing in it escaped.  Functions have no text.
-/
import TemplateExpr.Value.Number
import TemplateExpr.Double.Text

namespace TemplateExpr

/-- A text between quotation marks. -/
def quoteMarks (s : String) : String := "'" ++ s ++ "'"

mutual

/-- The text of a value, standing at the top or `nested` in another one. -/
def Value.written (nested : Bool) : (v : Value) → String
  | ⟨data, _, _⟩ => Payload.written nested data
termination_by structural v => v

def Payload.written (nested : Bool) : (p : Payload Value) → String
  | .empty => if nested then "none" else ""
  | .bool b => if b then "true" else "false"
  | .int i => Integer.text i
  | .double d => Double.text d
  | .text t => if nested then quoteMarks t.toPlain else t.toPlain
  | .list l => "[" ++ ", ".intercalate (ListSource.writtenItems l) ++ "]"
  | .map m => "\x7b" ++ ", ".intercalate (m.keys.map fun key =>
      quoteMarks key ++ ": " ++ MapSource.writtenValue key m) ++ "\x7d"
  | .function _ => ""
  | .builtin _ => ""
termination_by structural p => p

def ListSource.writtenItems : (l : ListSource Value) → List String
  | .owned items => Value.writtenEach items
  | .progression count first step =>
    (List.range count).map fun i => Integer.text (ListSource.term first step i)
  | .sparse slots => Value.writtenSlots slots
termination_by structural l => l

def Value.writtenEach : (vs : List Value) → List String
  | [] => []
  | v :: vs => v.written true :: Value.writtenEach vs
termination_by structural vs => vs

def Value.writtenSlots : (vs : List (Option Value)) → List String
  | [] => []
  | v :: vs => Value.writtenSlot v ++ Value.writtenSlots vs
termination_by structural vs => vs

def Value.writtenSlot : (v : Option Value) → List String
  | none => []
  | some v => [v.written true]
termination_by structural v => v

/-- The text of the value a map has for a key; a key without one reads as empty. -/
def MapSource.writtenValue (key : String) : (m : MapSource Value) → String
  | .owned entries => Value.writtenEntry key entries
  | .keyed _ entries => Value.writtenEntry key entries
termination_by structural m => m

def Value.writtenEntry (key : String) :
    {bound : Option String} → (entries : Dict Value bound) → String
  | _, .nil => "none"
  | _, .cons k v _ entries => if k = key then v.written true else Value.writtenEntry key entries
termination_by structural _ entries => entries

end

/-! ### Containers are written element by element -/

theorem Value.writtenEach_eq (vs : List Value) :
    Value.writtenEach vs = vs.map (·.written true) := by
  induction vs with
  | nil => rfl
  | cons v vs ih => simp [Value.writtenEach, ih]

theorem Value.writtenSlots_eq (vs : List (Option Value)) :
    Value.writtenSlots vs = (vs.filterMap id).map (·.written true) := by
  induction vs with
  | nil => rfl
  | cons v vs ih => cases v <;> simp [Value.writtenSlots, Value.writtenSlot, ih]

/-- A list writes its elements in order. -/
theorem ListSource.writtenItems_eq (l : ListSource Value) :
    l.writtenItems = l.items.map (·.written true) := by
  cases l with
  | owned items => exact Value.writtenEach_eq items
  | progression count first step =>
    simp [writtenItems, items, Function.comp_def, Value.ofInt, Value.of, Value.written,
      Payload.written]
  | sparse slots => exact Value.writtenSlots_eq slots

/-- A map writes for a key what it has for it, or an empty value. -/
theorem MapSource.writtenValue_eq (key : String) (m : MapSource Value) :
    m.writtenValue key = ((m.get? key).getD .empty).written true := by
  have entry : ∀ {bound : Option String} (entries : Dict Value bound),
      Value.writtenEntry key entries = ((Dict.get? key entries).getD .empty).written true := by
    intro bound entries
    induction entries with
    | nil => rfl
    | cons k v above entries ih => by_cases h : k = key <;> simp [Value.writtenEntry, h, ih]
  cases m <;> exact entry _

namespace Value

/-- The text of a value in the given width. -/
def toText (v : Value) (w : CharWidth) : Text :=
  match v.data with
  | .text t => t.toWidth w
  | _ => Text.ofString (v.written false) w

/-- The text of a value where a text keeps its own width and all else gets the given one. -/
def toOwnText (v : Value) (w : CharWidth) : Text :=
  match v.data with
  | .text t => t
  | _ => v.toText w

@[simp] theorem width_toText (v : Value) (w : CharWidth) : (v.toText w).width = w := by
  unfold toText
  split <;> simp

end Value

end TemplateExpr
