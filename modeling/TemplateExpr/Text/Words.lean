/-
The words of a text and the whitespace between them.

A word is a maximal run of alphanumeric characters.  Counting words and giving them
a capital both walk the text with a flag that says whether the character before
belonged to a word.

Trimming removes whitespace at both ends and leaves of every run inside only the
run's first character, so the words of a text are kept and separated once.
-/
import TemplateExpr.Unicode.CharClass

namespace TemplateExpr

/-! ### Whitespace -/

namespace Trim

open Unicode (isWhitespace)

/-- Removes the characters at the end that satisfy `p`. -/
def dropEndWhile (p : Char → Bool) (cs : List Char) : List Char :=
  (cs.reverse.dropWhile p).reverse

/-- Removes whitespace at both ends. -/
def ends (cs : List Char) : List Char := dropEndWhile isWhitespace (cs.dropWhile isWhitespace)

/-- Keeps the first character of each whitespace run; `inRun` says whether one is open. -/
def collapse : (inRun : Bool) → List Char → List Char
  | _, [] => []
  | inRun, c :: cs =>
    if isWhitespace c then
      if inRun then collapse true cs else c :: collapse true cs
    else c :: collapse false cs

/-- Removes whitespace at both ends and shortens the runs inside. -/
def normalize (cs : List Char) : List Char := collapse false (ends cs)

end Trim

/-! ### Words -/

namespace Words

open Unicode (isAlphabetic isAlphanumeric)

/-- Counts the words that start in the text; `inWord` says whether one is already open. -/
def countFrom : (inWord : Bool) → List Char → Nat
  | _, [] => 0
  | inWord, c :: cs =>
    if !inWord && isAlphanumeric c then countFrom (isAlphanumeric c) cs + 1
    else countFrom (isAlphanumeric c) cs

/-- The number of words. -/
def count (cs : List Char) : Nat := countFrom false cs

/--
Gives each word that starts in the text an upper-case first letter.  Only ASCII
letters have another case here; a word that starts with anything else is kept.
-/
def capitalizeFrom : (inWord : Bool) → List Char → List Char
  | _, [] => []
  | inWord, c :: cs =>
    (if !inWord && isAlphabetic c then c.toUpper else c) :: capitalizeFrom (isAlphanumeric c) cs

/-- Gives each word an upper-case first letter. -/
def capitalize (cs : List Char) : List Char := capitalizeFrom false cs

end Words

end TemplateExpr
