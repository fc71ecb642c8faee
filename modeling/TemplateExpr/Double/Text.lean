/-
How a double is written in template text.

A whole number below `10 ^ 16` is written in full with one decimal, so that it can be
told from an integer.  Every other finite double gets the fewest digits that read back
as it, always in positional notation and never with an exponent.
-/
import TemplateExpr.Double.Parts

namespace TemplateExpr.Double

/-! ### The fewest digits

The numbers that round to a double form an interval around it, whose ends belong to
it exactly when the mantissa is even.  Decimal grids are tried from coarse to fine;
the first one with a point in the interval gives the digits.  If a grid has a point
in the interval, one of the two points next to the double's own value is such a
point, so only those two are tested.
-/

/-- A decimal number `digits * 10 ^ exponent`. -/
structure Decimal where
  digits : Nat
  exponent : Int
  deriving DecidableEq

/--
The interval of a double `mantissa * 2 ^ exponent`, in quarters of its last place.
Below a power of two the doubles lie closer, so the lower half is shorter there.
-/
structure Interval where
  low : Nat
  value : Nat
  high : Nat
  closed : Bool

def interval (mantissa : Nat) (exponent : Int) : Interval where
  low :=
    if mantissa = Nat.pow 2 52 ∧ minExponent < exponent then 4 * mantissa - 1
    else 4 * mantissa - 2
  value := 4 * mantissa
  high := 4 * mantissa + 2
  closed := mantissa % 2 == 0

/--
The point of the grid of multiples of `10 ^ p` that is nearest to the value and lies
in the interval.  Of two equally near points the upper one is taken.
-/
def onGrid (i : Interval) (exponent p : Int) : Option Nat :=
  let scale := Nat.pow 2 (exponent - 2).toNat * Nat.pow 10 (-p).toNat
  let unit := Nat.pow 2 (2 - exponent).toNat * Nat.pow 10 p.toNat
  let below := i.value * scale / unit
  let inside (x y : Nat) : Bool := if i.closed then x ≤ y else x < y
  let downFits := inside (i.low * scale) (below * unit)
  let upFits := inside ((below + 1) * unit) (i.high * scale)
  let upNearer := (2 * below + 1) * unit ≤ 2 * i.value * scale
  if upFits && (!downFits || upNearer) then some (below + 1)
  else if downFits then some below
  else none

/-- Tries up to `n` grids, each ten times finer than the one before. -/
def search (i : Interval) (exponent : Int) : (n : Nat) → (p : Int) → Decimal
  | 0, p => ⟨i.value * Nat.pow 2 (exponent - 2).toNat * Nat.pow 10 (-p).toNat
      / (Nat.pow 2 (2 - exponent).toNat * Nat.pow 10 p.toNat), p⟩
  | n + 1, p =>
    match onGrid i exponent p with
    | some digits => ⟨digits, p⟩
    | none => search i exponent n (p - 1)

/-- A power of ten above `mantissa * 2 ^ exponent`, by less than a thousand times. -/
def coarsest (mantissa : Nat) (exponent : Int) : Int :=
  ((mantissa.log2 : Int) + exponent + 1) * 30103 / 100000 + 1

/-- The shortest decimal that rounds to `mantissa * 2 ^ exponent`, for a positive mantissa. -/
def shortest (mantissa : Nat) (exponent : Int) : Decimal :=
  search (interval mantissa exponent) exponent 21 (coarsest mantissa exponent)

/-! ### The text of a double -/

/-- Whether `mantissa * 2 ^ exponent` is a whole number. -/
def isWhole (mantissa : Nat) (exponent : Int) : Bool :=
  0 ≤ exponent || mantissa % Nat.pow 2 (-exponent).toNat == 0

/-- The whole part of `mantissa * 2 ^ exponent`. -/
def wholePart (mantissa : Nat) (exponent : Int) : Nat :=
  if 0 ≤ exponent then mantissa * Nat.pow 2 exponent.toNat
  else mantissa / Nat.pow 2 (-exponent).toNat

/-- Positional notation of a decimal, with no more zeros than the point asks for. -/
def Decimal.positional (d : Decimal) : String :=
  let digits := Nat.toDigits 10 d.digits
  let places := (-d.exponent).toNat
  let padded := List.replicate (places + 1 - digits.length) '0' ++ digits
  let whole := padded.take (padded.length - places) ++ List.replicate d.exponent.toNat '0'
  let fraction := padded.drop (padded.length - places)
  String.ofList (if fraction.isEmpty then whole else whole ++ '.' :: fraction)

/-- The text of a finite double without its sign. -/
def magnitudeText (mantissa : Nat) (exponent : Int) : String :=
  if isWhole mantissa exponent && wholePart mantissa exponent < Nat.pow 10 16 then
    (wholePart mantissa exponent).repr ++ ".0"
  else (shortest mantissa exponent).positional

/-- The text of a double.  Zero keeps its sign and a NaN has none. -/
def text (d : Float) : String :=
  match parts d with
  | .nan => "NaN"
  | .infinite negative => if negative then "-inf" else "inf"
  | .finite negative mantissa exponent =>
    (if negative then "-" else "") ++ magnitudeText mantissa exponent

end TemplateExpr.Double
