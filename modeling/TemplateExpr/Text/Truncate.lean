/-
Shortening a text to a length.

A text that fits is kept.  A longer one is cut and an end text is put after the cut.
The hard cut is made at the length itself, unless the text is longer by no more than
the leeway.  The soft cut looks at the word that straddles the length: the word may
run on for as many characters as the leeway counts, and if it has not ended by then
the cut moves back to before that word.
-/
import TemplateExpr.Text.Words

namespace TemplateExpr.Truncate

open Unicode (isWhitespace isAlphanumeric)

/--
How far the word at the start of `cs` runs on while the leeway counts down to zero.
A negative leeway never reaches zero.
-/
def overrun : (leeway : Int64) → (cs : List Char) → Nat
  | _, [] => 0
  | leeway, c :: cs => if leeway != 0 && isAlphanumeric c then overrun (leeway - 1) cs + 1 else 0

/-- Moves a cut that would stand inside a word to before the separator ahead of that word. -/
def backOff (cs : List Char) : List Char :=
  (Trim.dropEndWhile isAlphanumeric cs).dropLast

/-- The cut at a length, with the text kept whole if it exceeds it by at most the leeway. -/
def hard (length : Nat) (ending : List Char) (leeway : Int64) (cs : List Char) : List Char :=
  if cs.length ≤ length + leeway.toNatClampNeg then cs else cs.take length ++ ending

/-- The cut that does not split a word. -/
def soft (length : Nat) (ending : List Char) (leeway : Int64) (cs : List Char) : List Char :=
  let pos := length + overrun leeway (cs.drop length)
  match cs.drop pos with
  | [] => cs
  | c :: _ =>
    let kept := if isAlphanumeric c then backOff (cs.take pos) else cs.take pos
    Trim.dropEndWhile isWhitespace kept ++ ending

/-- Shortens a text to `length` characters before the end text; a negative length is zero. -/
def truncate (length : Int64) (splitWords : Bool) (ending : List Char) (leeway : Int64)
    (cs : List Char) : List Char :=
  if cs.length ≤ length.toNatClampNeg then cs
  else if splitWords then hard length.toNatClampNeg ending leeway cs
  else soft length.toNatClampNeg ending leeway cs

end TemplateExpr.Truncate
