/-
The tokens of a JSON text.

Blanks separate tokens and mean nothing.  A string is read into its characters, with
escaped UTF-16 units paired into the code points they stand for; a unit without its
partner makes the string unreadable, which matters only to a reader who wants its
text.  A number is kept by its parts, because what it is worth depends on how its
digits are read.
-/
namespace TemplateExpr.Json

/-- A number by its parts, each a list of decimal digits. -/
structure Numeral where
  negative : Bool
  whole : List Char
  fraction : Option (List Char)
  /-- Whether the exponent is negative, and its digits. -/
  exponent : Option (Bool × List Char)

inductive Token where
  | openArray
  | closeArray
  | openObject
  | closeObject
  | comma
  | colon
  | null
  | bool (b : Bool)
  | number (n : Numeral)
  /-- The text of a string, unless a lone surrogate stands in it. -/
  | string (s : Option String)

/-! ### Strings -/

/-- An element of a string: a character, or a UTF-16 unit written as an escape. -/
inductive StringPart where
  | char (c : Char)
  | unit (n : Nat)

/-- The value of a hexadecimal digit. -/
def hexValue? (c : Char) : Option Nat :=
  if '0' ≤ c ∧ c ≤ '9' then some (c.toNat - 0x30)
  else if 'a' ≤ c ∧ c ≤ 'f' then some (c.toNat - 0x61 + 10)
  else if 'A' ≤ c ∧ c ≤ 'F' then some (c.toNat - 0x41 + 10)
  else none

/-- The unit of four hexadecimal digits. -/
def unit? (a b c d : Char) : Option Nat := do
  pure ((((← hexValue? a) * 16 + (← hexValue? b)) * 16 + (← hexValue? c)) * 16 + (← hexValue? d))

/-- The character an escape of one letter stands for. -/
def shortEscape? : Char → Option Char
  | '"' => some '"'
  | '\\' => some '\\'
  | '/' => some '/'
  | 'b' => some '\x08'
  | 'f' => some '\x0c'
  | 'n' => some '\n'
  | 'r' => some '\r'
  | 't' => some '\t'
  | _ => none

/-- Reads a string after its opening quotation mark. -/
def stringParts? : List Char → Option (List StringPart × List Char)
  | [] => none
  | '"' :: cs => some ([], cs)
  | '\\' :: 'u' :: a :: b :: c :: d :: cs => do
    let n ← unit? a b c d
    let (parts, rest) ← stringParts? cs
    pure (.unit n :: parts, rest)
  | '\\' :: e :: cs => do
    let c ← shortEscape? e
    let (parts, rest) ← stringParts? cs
    pure (.char c :: parts, rest)
  | c :: cs => do
    if c.toNat < 0x20 then none
    else
      let (parts, rest) ← stringParts? cs
      pure (.char c :: parts, rest)

/-- Pairs units into characters; a surrogate without its partner has no text. -/
def charsOf? : List StringPart → Option (List Char)
  | [] => some []
  | .char c :: parts => (charsOf? parts).map (c :: ·)
  | .unit n :: parts =>
    if n < 0xd800 ∨ 0xdfff < n then (charsOf? parts).map (Char.ofNat n :: ·)
    else
      match parts with
      | .unit low :: parts =>
        if n < 0xdc00 ∧ 0xdc00 ≤ low ∧ low ≤ 0xdfff then
          (charsOf? parts).map (Char.ofNat (0x10000 + (n - 0xd800) * 0x400 + (low - 0xdc00)) :: ·)
        else none
      | _ => none

/-! ### Numbers -/

/-- The digits at the start of a text, of which there must be one, and the rest. -/
def someDigits? (cs : List Char) : Option (List Char × List Char) :=
  match cs.takeWhile Char.isDigit with
  | [] => none
  | digits => some (digits, cs.dropWhile Char.isDigit)

/-- A fraction, if a point follows. -/
def fraction? : List Char → Option (Option (List Char) × List Char)
  | '.' :: cs => do
    let (digits, rest) ← someDigits? cs
    pure (some digits, rest)
  | cs => some (none, cs)

/-- An exponent, if its letter follows. -/
def exponent? : List Char → Option (Option (Bool × List Char) × List Char)
  | [] => some (none, [])
  | c :: cs =>
    if c = 'e' ∨ c = 'E' then do
      let (negative, cs) :=
        match cs with
        | '-' :: cs => (true, cs)
        | '+' :: cs => (false, cs)
        | cs => (false, cs)
      let (digits, rest) ← someDigits? cs
      pure (some (negative, digits), rest)
    else some (none, c :: cs)

/-- Reads a number; no digit may follow a leading zero. -/
def numeral? (negative : Bool) (cs : List Char) : Option (Numeral × List Char) := do
  let (whole, rest) ← someDigits? cs
  if whole.head? = some '0' ∧ whole.length ≠ 1 then none
  else
    let (fraction, rest) ← fraction? rest
    let (exponent, rest) ← exponent? rest
    pure (⟨negative, whole, fraction, exponent⟩, rest)

/-! ### Texts -/

/-- Reads the token a text starts with. -/
def token? : List Char → Option (Token × List Char)
  | '[' :: cs => some (.openArray, cs)
  | ']' :: cs => some (.closeArray, cs)
  | '\x7b' :: cs => some (.openObject, cs)
  | '\x7d' :: cs => some (.closeObject, cs)
  | ',' :: cs => some (.comma, cs)
  | ':' :: cs => some (.colon, cs)
  | '"' :: cs => do
    let (parts, rest) ← stringParts? cs
    pure (.string ((charsOf? parts).map String.ofList), rest)
  | 'n' :: 'u' :: 'l' :: 'l' :: cs => some (.null, cs)
  | 't' :: 'r' :: 'u' :: 'e' :: cs => some (.bool true, cs)
  | 'f' :: 'a' :: 'l' :: 's' :: 'e' :: cs => some (.bool false, cs)
  | '-' :: cs => do
    let (n, rest) ← numeral? true cs
    pure (.number n, rest)
  | cs => do
    let (n, rest) ← numeral? false cs
    pure (.number n, rest)

/-- The characters that may stand between tokens. -/
def isBlank (c : Char) : Bool := c == ' ' || c == '\n' || c == '\t' || c == '\r'

/-- The tokens of a text; every token takes a character, so `fuel` need not exceed its length. -/
def tokensUpTo? : (fuel : Nat) → List Char → Option (List Token)
  | fuel, cs =>
    match cs.dropWhile isBlank, fuel with
    | [], _ => some []
    | _ :: _, 0 => none
    | c :: cs, fuel + 1 => do
      let (t, rest) ← token? (c :: cs)
      let ts ← tokensUpTo? fuel rest
      pure (t :: ts)
termination_by structural fuel => fuel

/-- The tokens of a text. -/
def tokens? (cs : List Char) : Option (List Token) := tokensUpTo? cs.length cs

end TemplateExpr.Json
