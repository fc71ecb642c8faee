/-
What a JSON number is worth.

A number without fraction and exponent that fits a word is an integer.  Every other
number is a double, read quickly rather than exactly: digits are gathered into a
significand while it stays below `2 ^ 64`, later digits only move the point, and the
significand is then scaled by a power of ten in double arithmetic.  A number beyond
the range of doubles has no value.
-/
import TemplateExpr.Double.Parts
import TemplateExpr.Json.Token

namespace TemplateExpr.Json

inductive Number where
  | whole (i : Int64)
  | double (d : Float)

/-- Gathers digits into a significand while it stays below `2 ^ 64`; the rest is left over. -/
def gather : (significand : Nat) → List Char → Nat × List Char
  | significand, [] => (significand, [])
  | significand, c :: cs =>
    let next := 10 * significand + (c.toNat - 0x30)
    if next < Nat.pow 2 64 then gather next cs else (significand, c :: cs)

def powerOfTen (n : Nat) : Float := Double.nearest false (Nat.pow 10 n) 1

/-- Divides by `10 ^ n`, by the largest power of ten at a time. -/
def scaleDown (f : Float) (n : Nat) : Float :=
  if n ≤ 308 then f / powerOfTen n
  else if f == 0.0 then f
  else scaleDown (f / powerOfTen 308) (n - 308)
termination_by n

/-- A significand times a power of ten, if the product is finite. -/
def scale? (significand : Nat) (exponent : Int) : Option Float :=
  let f := Double.nearest false significand 1
  if 308 < exponent then
    if f == 0.0 then some f else none
  else if 0 ≤ exponent then
    let scaled := f * powerOfTen exponent.toNat
    if scaled.isInf then none else some scaled
  else some (scaleDown f (-exponent).toNat)

/-- The exponent written after its letter, unless its digits do not fit 32 bits. -/
def smallExponent? (digits : List Char) : Option Nat :=
  let n := Nat.ofDigitChars 10 digits 0
  if n < Nat.pow 2 31 then some n else none

/-- The magnitude of a number that is read as a double. -/
def Numeral.magnitude? (n : Numeral) : Option Float :=
  let (significand, wholeLeft) := gather 0 n.whole
  let fraction := n.fraction.getD []
  let (significand, fractionLeft) := gather significand fraction
  let shift : Int := wholeLeft.length - (fraction.length - fractionLeft.length : Nat)
  match n.exponent with
  | none => scale? significand shift
  | some (negative, digits) =>
    match smallExponent? digits with
    | some e => scale? significand (if negative then shift - e else shift + e)
    | none => if significand ≠ 0 ∧ !negative then none else some 0.0

/-- A whole number that fits a word.  A negative zero is none. -/
def Numeral.whole? (n : Numeral) : Option Int64 :=
  let magnitude := Nat.ofDigitChars 10 n.whole 0
  if n.fraction.isSome ∨ n.exponent.isSome then none
  else if n.negative then
    if 0 < magnitude ∧ magnitude ≤ Nat.pow 2 63 then some (Int64.ofInt (-magnitude)) else none
  else if magnitude < Nat.pow 2 63 then some (Int64.ofNat magnitude)
  else none

/-- What a number is worth. -/
def Numeral.number? (n : Numeral) : Option Number :=
  match n.whole? with
  | some i => some (.whole i)
  | none => n.magnitude?.map fun m => .double (if n.negative then -m else m)

end TemplateExpr.Json
