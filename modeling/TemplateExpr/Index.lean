/-
Reading elements out of values.

A list is indexed by an integer, a map by a text, and a text by an integer, which
gives the text of one character.  Negative indices count from the end.  A key of
another kind, a position outside and a missing key all read as the empty value.
-/
import TemplateExpr.Context

namespace TemplateExpr

/--
The position an index means among `length` positions.  Only lengths that are words
themselves can be indexed.
-/
def position? (length : Nat) (index : Int64) : Option Nat :=
  if length < Nat.pow 2 63 then
    let at_ : Int := if index < 0 then index.toInt + length else index.toInt
    if 0 ≤ at_ ∧ at_ < length then some at_.toNat else none
  else none

namespace ListSource

/-- The element an index means. -/
def index? (l : ListSource Value) (index : Int64) : Option Value :=
  (position? l.length index).bind l.get?

end ListSource

/-- The text of the one character an index means. -/
def Text.index? (t : Text) (index : Int64) : Option Text :=
  (position? t.length index).bind fun i => t.chars[i]?.map fun c => .ofChars [c] t.width

namespace Value

/-- Reads the element of `base` that `key` means; the text of a character is a new payload. -/
def subscript (base key : Value) : EvalM Value :=
  match base.data with
  | .list l => pure ((key.asInt?.bind l.index?).getD .empty)
  | .map m => pure ((key.asText?.bind fun name => m.get? name.toPlain).getD .empty)
  | .text t =>
    match key.asInt?.bind t.index? with
    | some c => EvalM.create (.text c)
    | none => pure .empty
  | _ => pure .empty

end Value

end TemplateExpr
