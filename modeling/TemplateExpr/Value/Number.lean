/-
Values as numbers.

Integers and booleans are whole numbers, doubles are not, and no other value is a
number.  Two whole numbers are combined as words; as soon as one operand is a double,
both are.
-/
import TemplateExpr.Value.Basic
import TemplateExpr.Text.Words
import TemplateExpr.NumberText

namespace TemplateExpr

/-- Two numeric operands brought to one kind. -/
inductive Operands where
  | ints (a b : Int64)
  | doubles (a b : Float)

/-- A boolean as a number. -/
def boolNumber (b : Bool) : Int64 := if b then 1 else 0

namespace Payload

/-- The whole number a payload is. -/
def whole? : Payload Value → Option Int64
  | .int i => some i
  | .bool b => some (boolNumber b)
  | _ => none

/-- The double a numeric payload stands for. -/
def toDouble? : Payload Value → Option Float
  | .int i => some i.toFloat
  | .double d => some d
  | .bool b => some (if b then 1.0 else 0.0)
  | _ => none

/-- Brings two payloads to one numeric kind, if both are numbers. -/
def operands? (p q : Payload Value) : Option Operands :=
  match p.whole?, q.whole? with
  | some a, some b => some (.ints a b)
  | _, _ =>
    match p.toDouble?, q.toDouble? with
    | some a, some b => some (.doubles a b)
    | _, _ => none

end Payload

/-- Reads a text as an integer, or as a double that is then cut to one. -/
def Text.toInt? (t : Text) : Option Int64 :=
  let cs := Trim.ends t.chars
  match NumberText.readInt64? cs with
  | some i => some i
  | none => (NumberText.readDouble? cs).map Float.toInt64

namespace Value

/-- The double a numeric value stands for. -/
def toDouble? (v : Value) : Option Float := v.data.toDouble?

/--
The integer a value stands for, or `default`.  A double is cut toward zero and held
to the range; a text is read as a number with blanks around it.
-/
def toInt (v : Value) (default : Int64) : Int64 :=
  match v.data with
  | .int i => i
  | .double d => d.toInt64
  | .bool b => boolNumber b
  | .text t => t.toInt?.getD default
  | _ => default

/-- Whether a value counts as true in a condition. -/
def truthy (v : Value) : Bool :=
  match v.data with
  | .empty => false
  | .bool b => b
  | .int i => i != 0
  | .double d => d != 0.0
  | .text t => !t.isEmpty
  | .list l => !l.isEmpty
  | .map m => !m.isEmpty
  | .function _ => true
  | .builtin _ => true

end Value

end TemplateExpr
