/-
Doubles as exact numbers.

A finite double is a sign, a natural number and a power of two.  Decoding goes
through the bits, and so does building the double nearest to a quotient, which makes
both exact: nothing here is rounded but the one quotient, once, with ties to even.

The remainder of the truncated quotient is exact: both operands are brought to one
power of two and divided as natural numbers, and the result is a double again.  Floor
division and its remainder then follow the sign of the divisor.
-/
namespace TemplateExpr.Double

/-- What the bits of a double say; a finite one is `mantissa * 2 ^ exponent`. -/
inductive Parts where
  | nan
  | infinite (negative : Bool)
  | finite (negative : Bool) (mantissa : Nat) (exponent : Int)
  deriving DecidableEq

/-- The exponent of the smallest doubles. -/
def minExponent : Int := -1074

def parts (d : Float) : Parts :=
  let bits := d.toBits.toNat
  let negative : Bool := Nat.pow 2 63 ≤ bits
  let biased : Nat := bits / Nat.pow 2 52 % Nat.pow 2 11
  let fraction : Nat := bits % Nat.pow 2 52
  if biased = 2047 then
    if fraction = 0 then .infinite negative else .nan
  else if biased = 0 then .finite negative fraction minExponent
  else .finite negative (Nat.pow 2 52 + fraction) ((biased : Int) - 1 + minExponent)

/-! ### The nearest double -/

/-- The quotient rounded to the nearest natural number, a tie to the even one. -/
def roundDiv (num den : Nat) : Nat :=
  let q := num / den
  let r := num % den
  if 2 * r < den then q
  else if den < 2 * r then q + 1
  else if q % 2 = 0 then q else q + 1

/-- The magnitude bits of an infinite double. -/
def infiniteBits : Nat := 2047 * Nat.pow 2 52

/-- The exponent at which a positive quotient has a mantissa of 53 bits, or the smallest one. -/
def exponentOf (num den : Nat) : Int :=
  let low : Int := (num.log2 : Int) - den.log2 - 53
  let reaches : Bool :=
    if 0 ≤ low then Nat.pow 2 53 * den * Nat.pow 2 low.toNat ≤ num
    else Nat.pow 2 53 * den ≤ num * Nat.pow 2 (-low).toNat
  max minExponent (if reaches then low + 1 else low)

/--
The bits of the double nearest to a quotient of natural numbers.  A mantissa that
rounds up to `2 ^ 53` carries into the exponent, and a quotient out of range carries
into the bits of infinity.
-/
def nearestBits (num den : Nat) : Nat :=
  if num = 0 then 0
  else
    let e := exponentOf num den
    let m :=
      if 0 ≤ e then roundDiv num (den * Nat.pow 2 e.toNat)
      else roundDiv (num * Nat.pow 2 (-e).toNat) den
    min infiniteBits ((e - minExponent).toNat * Nat.pow 2 52 + m)

/-- The double nearest to a quotient, with the given sign. -/
def nearest (negative : Bool) (num den : Nat) : Float :=
  Float.ofBits (UInt64.ofNat (nearestBits num den + if negative then Nat.pow 2 63 else 0))

/-- The double nearest to `mantissa * 2 ^ exponent`. -/
def ofParts (negative : Bool) (mantissa : Nat) (exponent : Int) : Float :=
  if 0 ≤ exponent then nearest negative (mantissa * Nat.pow 2 exponent.toNat) 1
  else nearest negative mantissa (Nat.pow 2 (-exponent).toNat)

def nan : Float := Float.ofBits 0x7ff8000000000000

def infinity (negative : Bool) : Float :=
  Float.ofBits (if negative then 0xfff0000000000000 else 0x7ff0000000000000)

/-! ### Remainder and floor division -/

/-- `m₁ * 2 ^ e₁` modulo `m₂ * 2 ^ e₂` as a multiple of the smaller of the two powers. -/
def magnitudeRemainder (m₁ : Nat) (e₁ : Int) (m₂ : Nat) (e₂ : Int) : Nat × Int :=
  let e := min e₁ e₂
  (m₁ * Nat.pow 2 (e₁ - e).toNat % (m₂ * Nat.pow 2 (e₂ - e).toNat), e)

/-- The remainder that has the sign of the dividend. -/
def remainder (a b : Float) : Float :=
  match parts a, parts b with
  | .finite negative m₁ e₁, .finite _ m₂ e₂ =>
    if m₂ = 0 then nan
    else
      let (m, e) := magnitudeRemainder m₁ e₁ m₂ e₂
      ofParts negative m e
  | .finite _ _ _, .infinite _ => a
  | _, _ => nan

/-- The remainder that has the sign of the divisor. -/
def floorMod (a b : Float) : Float :=
  let r := remainder a b
  if r != 0.0 && (decide (r < 0.0) != decide (b < 0.0)) then r + b else r

/-- The quotient rounded down. -/
def floorDiv (a b : Float) : Float := (a / b).floor

end TemplateExpr.Double
