/-
Percent-encoding for use inside a URL.

A space becomes a plus sign, an ASCII character that is not reserved stands for
itself, and anything else is written as `%` and two hexadecimal digits per byte.
What is encoded are the bytes of a narrow text and the code points of a wide one; a
code point above a byte is written as its significant bytes, most significant first.
-/
import TemplateExpr.Text.Basic

namespace TemplateExpr.Percent

/-- ASCII characters that have a meaning of their own in a URL, or are written escaped here. -/
def reserved : List Char :=
  ['+', '"', '%', '-', '!', '#', '$', '&', '\'', '(', ')', '*', ',', '/', ':', ';', '=', '?', '@',
    '[', ']']

/-- The upper-case hexadecimal digit of a number below sixteen. -/
def hexDigit (n : Nat) : Char :=
  if n < 10 then Char.ofNat (0x30 + n) else Char.ofNat (0x41 + n - 10)

/-- A byte as `%` and two digits. -/
def escapeByte (b : Nat) : List Char := ['%', hexDigit (b / 16), hexDigit (b % 16)]

/-- The bytes of a number below `2 ^ 32`, most significant first, without leading zeros. -/
def significantBytes (n : Nat) : List Nat :=
  [n / Nat.pow 2 24 % 256, n / Nat.pow 2 16 % 256, n / Nat.pow 2 8 % 256].dropWhile (· == 0) ++
    [n % 256]

/-- One byte or code point in its encoded form. -/
def encodeUnit (n : Nat) : List Char :=
  if n = 0x20 then ['+']
  else if n ≤ 0x7f ∧ Char.ofNat n ∉ reserved then [Char.ofNat n]
  else (significantBytes n).flatMap escapeByte

/-- The encoded form of a text, in the same width. -/
def encode : Text → Text
  | .narrow s =>
    .narrow (String.ofList ((s.toList.flatMap String.utf8EncodeChar).flatMap fun b =>
      encodeUnit b.toNat))
  | .wide cs => .wide (cs.flatMap fun c => encodeUnit c.toNat)

@[simp] theorem width_encode (t : Text) : (encode t).width = t.width := by
  cases t <;> rfl

end TemplateExpr.Percent
