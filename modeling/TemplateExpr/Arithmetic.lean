/-
What operators make of the values of their operands.

Each operator looks at the two payloads and yields a payload; operands it is not
defined for yield the empty one.  Comparison, arithmetic, joining of texts and lists
and repetition of texts live here.  The logical operators, membership and `~` decide
themselves when to evaluate an operand and yield the empty payload here.
-/
import TemplateExpr.Operator
import TemplateExpr.Value.Equality

namespace TemplateExpr

namespace Operands

def add : Operands → Payload Value
  | .ints a b => .int (a + b)
  | .doubles a b => .double (a + b)

def sub : Operands → Payload Value
  | .ints a b => .int (a - b)
  | .doubles a b => .double (a - b)

def mul : Operands → Payload Value
  | .ints a b => .int (a * b)
  | .doubles a b => .double (a * b)

/-- The remainder with the sign of the divisor; empty for a divisor of zero. -/
def mod : Operands → Payload Value
  | .ints a b => if b == 0 then .empty else .int (Integer.floorMod a b)
  | .doubles a b => if b == 0.0 then .empty else .double (Double.floorMod a b)

/-- The quotient rounded down; empty for a divisor of zero. -/
def floorDiv : Operands → Payload Value
  | .ints a b => if b == 0 then .empty else .int (Integer.floorDiv a b)
  | .doubles a b => if b == 0.0 then .empty else .double (Double.floorDiv a b)

/-- The exponents an integer power is tried for: those a 32-bit word holds. -/
def exponent? (b : Int64) : Option Nat :=
  if 0 ≤ b.toInt ∧ b.toInt < Nat.pow 2 32 then some b.toInt.toNat else none

/-- The power, as an integer where the exact one is found and as a double otherwise. -/
def pow : Operands → Payload Value
  | .ints a b =>
    match (exponent? b).bind (Integer.pow? a) with
    | some p => .int p
    | none => .double (a.toFloat.pow b.toFloat)
  | .doubles a b => .double (a.pow b)

end Operands

namespace Payload

/-- Applies an operator to two numbers; other operands yield the empty payload. -/
def numeric (f : Operands → Payload Value) (p q : Payload Value) : Payload Value :=
  match p.operands? q with
  | some operands => f operands
  | none => .empty

/-- The sum of numbers, or two texts of one width joined, or two lists joined. -/
def add (p q : Payload Value) : Payload Value :=
  match p, q with
  | .text s, .text t =>
    match s.append t with
    | .ok joined => .text joined
    | .error _ => .empty
  | .list a, .list b => .list (.owned (a.items ++ b.items))
  | p, q => numeric Operands.add p q

/-- Characters repeated.  However often nothing is repeated, it stays nothing. -/
def repeatChars (n : Nat) (cs : List Char) : List Char :=
  if cs.isEmpty then [] else (List.replicate n cs).flatten

/-- A text repeated; a negative count repeats it no times. -/
def repeatText (t : Text) (count : Int64) : Payload Value :=
  .text (t.mapChars (repeatChars count.toNatClampNeg))

/-- The product of numbers, or a text repeated by an integer on either side. -/
def mul (p q : Payload Value) : Payload Value :=
  match p, q with
  | .text t, .int n => repeatText t n
  | .int n, .text t => repeatText t n
  | p, q => numeric Operands.mul p q

/-- The quotient of two numbers as doubles; empty for a divisor of zero. -/
def div (p q : Payload Value) : Payload Value :=
  match p.toDouble?, q.toDouble? with
  | some a, some b => if b == 0.0 then .empty else .double (a / b)
  | _, _ => .empty

end Payload

/-- Whether the order of two values is one of the given ones. -/
def Value.ordered (a b : Value) (accepted : List Ordering) : Payload Value :=
  .bool ((a.order? b).any fun o => accepted.contains o)

/-- The payload of a comparison or an arithmetic operator. -/
def BinaryOp.apply (op : BinaryOp) (a b : Value) : Payload Value :=
  match op with
  | .eq => .bool (a.equal b)
  | .ne => .bool (!a.equal b)
  | .gt => a.ordered b [.gt]
  | .lt => a.ordered b [.lt]
  | .ge => a.ordered b [.gt, .eq]
  | .le => a.ordered b [.lt, .eq]
  | .add => a.data.add b.data
  | .sub => Payload.numeric Operands.sub a.data b.data
  | .mul => a.data.mul b.data
  | .div => a.data.div b.data
  | .mod => Payload.numeric Operands.mod a.data b.data
  | .floorDiv => Payload.numeric Operands.floorDiv a.data b.data
  | .pow => Payload.numeric Operands.pow a.data b.data
  | .and => .empty
  | .or => .empty
  | .mem => .empty
  | .concat => .empty

/-- The payload of an operator before its operand. -/
def UnaryOp.apply (op : UnaryOp) (v : Value) : Payload Value :=
  match op, v.data with
  | .not, _ => .bool (!v.truthy)
  | .neg, .int i => .int (-i)
  | .neg, .double d => .double (-d)
  | .neg, .bool b => .int (-boolNumber b)
  | .neg, _ => .empty
  | .pos, .int i => .int i
  | .pos, .double d => .double d
  | .pos, .bool b => .int (boolNumber b)
  | .pos, _ => .empty

end TemplateExpr
