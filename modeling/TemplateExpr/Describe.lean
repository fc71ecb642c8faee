/-
One-line descriptions of lists, maps and functions, for diagnostics.

A description names what it describes and lists some of its fields.  Texts in it stand
between double quotation marks.  The marks, the backslash and the usual control
characters have short escapes; whatever else would not be seen as itself is written by
its code point.
-/
import TemplateExpr.Function
import TemplateExpr.Unicode.Printable

namespace TemplateExpr

/-! ### Texts with escapes -/

namespace Escaped

/-- A code point in lower-case hexadecimal digits between braces. -/
def codePoint (c : Char) : List Char :=
  ['\\', 'u', '\x7b'] ++ Nat.toDigits 16 c.toNat ++ ['\x7d']

/-- A character as it is shown. -/
def char (c : Char) : List Char :=
  match c with
  | '\x00' => ['\\', '0']
  | '\t' => ['\\', 't']
  | '\n' => ['\\', 'n']
  | '\r' => ['\\', 'r']
  | '"' => ['\\', '"']
  | '\\' => ['\\', '\\']
  | c => if Unicode.isPrintable c then [c] else codePoint c

/-- A text as it is shown. -/
def text (s : String) : String := String.ofList (['"'] ++ s.toList.flatMap char ++ ['"'])

end Escaped

/-! ### Descriptions -/

/-- A name and its fields, written as a record. -/
def describeRecord (name : String) (fields : List (String × String)) : String :=
  name ++ " \x7b " ++ ", ".intercalate (fields.map fun f => f.1 ++ ": " ++ f.2) ++ " \x7d"

def describeBool (b : Bool) : String := if b then "true" else "false"

/-- A list is described by its length, not by its elements. -/
def ListSource.describe (l : ListSource Value) : String :=
  describeRecord "ListAdapter" [("len", l.length.repr), ("owns_storage", describeBool l.owns)]

/-- A map is described by its keys. -/
def MapSource.describe (m : MapSource Value) : String :=
  describeRecord "MapAdapter"
    [("keys", "[" ++ ", ".intercalate (m.keys.map Escaped.text) ++ "]"),
      ("owns_storage", describeBool m.owns)]

/-- The word for where a function comes from. -/
def Origin.describe : Origin → String
  | .global => "GlobalFunc"
  | .special => "SpecialFunc"
  | .template => "Macro"
  | .user => "UserCallable"

/-- A function is described by where it comes from and whether it writes. -/
def FunctionDef.describe (f : FunctionDef) : String :=
  describeRecord "Callable"
    [("kind", f.origin.describe), ("shape", if f.emits then "Statement" else "Expression")]

end TemplateExpr
