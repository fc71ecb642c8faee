/-
Integer arithmetic on 64-bit words.

Addition, subtraction and multiplication wrap.  Division rounds down and its
remainder takes the sign of the divisor; both are corrected from the truncating
operations of the words, and the corrections never leave the range.  A power is an
integer only while its exact value is one.
-/
namespace TemplateExpr.Integer

/-- The remainder with the sign of the divisor. -/
def floorMod (a b : Int64) : Int64 :=
  let r := a % b
  if r != 0 && (decide (r < 0) != decide (b < 0)) then r + b else r

/-- The quotient rounded down; only the smallest word divided by `-1` wraps. -/
def floorDiv (a b : Int64) : Int64 :=
  let q := a / b
  if a % b != 0 && (decide (a < 0) != decide (b < 0)) then q - 1 else q

/-- The word with an integer's value, if it is in range. -/
def ofInt? (n : Int) : Option Int64 :=
  if -Nat.pow 2 63 ≤ n ∧ n < Nat.pow 2 63 then some (Int64.ofInt n) else none

/-- The exact product, if it is in range. -/
def mul? (a b : Int64) : Option Int64 := ofInt? (a.toInt * b.toInt)

/-- `acc * base ^ n` by repeated squaring, given up at the first product out of range. -/
def powFrom (acc base : Int64) (n : Nat) : Option Int64 :=
  if n = 0 then some acc
  else if n = 1 then mul? acc base
  else do
    let acc ← if n % 2 = 1 then mul? acc base else some acc
    let square ← mul? base base
    powFrom acc square (n / 2)
termination_by n

/-- The exact power, if it is in range. -/
def pow? (base : Int64) (n : Nat) : Option Int64 := powFrom 1 base n

/-- Decimal text: a minus sign for negative numbers and no leading zeros. -/
def text (a : Int64) : String := a.toInt.repr

end TemplateExpr.Integer
