/-
Reading numbers from text.

An integer is an optional sign and decimal digits, and is refused when it does not
fit a word.  A double is an optional sign and either a name for infinity or NaN, in
any case, or digits with an optional point and an optional exponent; the value is the
double nearest to the exact decimal.
-/
import TemplateExpr.Integer
import TemplateExpr.Double.Parts

namespace TemplateExpr.NumberText

/-- An optional sign (true when it is a minus sign) and the rest. -/
def splitSign : List Char → Bool × List Char
  | '-' :: cs => (true, cs)
  | '+' :: cs => (false, cs)
  | cs => (false, cs)

/-- The digits at the start of a text, and the rest. -/
def splitDigits (cs : List Char) : List Char × List Char :=
  (cs.takeWhile Char.isDigit, cs.dropWhile Char.isDigit)

/-- The number written by decimal digits. -/
def ofDigits (cs : List Char) : Nat := Nat.ofDigitChars 10 cs 0

/-- Reads an integer that fits a word. -/
def readInt64? (cs : List Char) : Option Int64 :=
  let (negative, digits) := splitSign cs
  if digits.isEmpty || !digits.all Char.isDigit then none
  else Integer.ofInt? (if negative then -(ofDigits digits : Int) else ofDigits digits)

/-- An exponent after its letter: an optional sign and at least one digit. -/
def readExponent? (cs : List Char) : Option Int :=
  let (negative, digits) := splitSign cs
  if digits.isEmpty || !digits.all Char.isDigit then none
  else some (if negative then -(ofDigits digits : Int) else ofDigits digits)

/--
The double nearest to `n * 10 ^ exponent`.  Exponents that put the number beyond the
range on either side are settled first, so that the powers stay small.
-/
def scaled (negative : Bool) (n : Nat) (exponent : Int) : Float :=
  let magnitude : Int := (Nat.toDigits 10 n).length + exponent
  if n = 0 ∨ magnitude < -330 then Double.nearest negative 0 1
  else if 310 < magnitude then Double.infinity negative
  else if 0 ≤ exponent then Double.nearest negative (n * Nat.pow 10 exponent.toNat) 1
  else Double.nearest negative n (Nat.pow 10 (-exponent).toNat)

/-- A number without its sign: digits, an optional point, an optional exponent. -/
def readDecimal? (negative : Bool) (cs : List Char) : Option Float :=
  let (whole, rest) := splitDigits cs
  let (fraction, rest) :=
    match rest with
    | '.' :: rest => splitDigits rest
    | rest => ([], rest)
  if whole.isEmpty && fraction.isEmpty then none
  else
    let value (exponent : Int) :=
      scaled negative (ofDigits (whole ++ fraction)) (exponent - fraction.length)
    match rest with
    | [] => some (value 0)
    | c :: rest => if c = 'e' ∨ c = 'E' then (readExponent? rest).map value else none

/-- Reads a double. -/
def readDouble? (cs : List Char) : Option Float :=
  let (negative, body) := splitSign cs
  let word := String.ofList (body.map Char.toLower)
  if word = "inf" ∨ word = "infinity" then some (Double.infinity negative)
  else if word = "nan" then some Double.nan
  else readDecimal? negative body

end TemplateExpr.NumberText
