/-
The widths of texts, and what can be wrong with a template.

A template is either narrow (a string) or wide (one element per code point).  The
width says nothing about which characters may occur; it says which texts may be
joined: an operation that combines two texts asks that they share a width.

Only a malformed template is an error: a filter or a tester nobody knows, or two
texts of different widths handed to an operation that joins them.  Everything else
that goes wrong while a well-formed expression is evaluated yields the empty value.
Each error has a stable code, and the range its code lies in gives its category.
-/
namespace TemplateExpr

/-! ### Widths -/

/-- The representation of a text: a string, or one element per code point. -/
inductive CharWidth where
  | narrow
  | wide
  deriving DecidableEq, Repr

namespace CharWidth

/-- A renderer that is told nothing produces narrow text. -/
instance : Inhabited CharWidth := ⟨.narrow⟩

/-- The name settings and messages use for a width. -/
def name : CharWidth → String
  | .narrow => "narrow"
  | .wide => "wide"

/-- Reads a width by its name; names are case sensitive. -/
def ofName? : String → Option CharWidth
  | "narrow" => some .narrow
  | "wide" => some .wide
  | _ => none

@[simp] theorem ofName?_name (w : CharWidth) : ofName? w.name = some w := by
  cases w <;> rfl

end CharWidth

/-! ### Errors -/

/-- When an error is found: while the expression is built, or while it is evaluated. -/
inductive ErrorCategory where
  | construction
  | evaluation
  deriving DecidableEq, Repr

/-- The word used for a category. -/
def ErrorCategory.name : ErrorCategory → String
  | .construction => "construction"
  | .evaluation => "evaluation"

/-- A stable number for one kind of error; codes are ordered by their number. -/
structure ErrorCode where
  number : UInt16
  deriving DecidableEq, Repr

namespace ErrorCode

instance : Ord ErrorCode := ⟨fun a b => compare a.number b.number⟩

def unknownFilter : ErrorCode := ⟨100⟩
def unknownTester : ErrorCode := ⟨101⟩
def widthMismatch : ErrorCode := ⟨200⟩

/-- Codes 200 to 299 are found while evaluating, all others while building. -/
def category (c : ErrorCode) : ErrorCategory :=
  if 200 ≤ c.number ∧ c.number ≤ 299 then .evaluation else .construction

/-- A code is written as `E` followed by its number. -/
def text (c : ErrorCode) : String := "E" ++ c.number.toNat.repr

end ErrorCode

/-- The causes for which a template is refused. -/
inductive TemplateError where
  | unknownFilter (name : String)
  | unknownTester (name : String)
  | widthMismatch (left right : CharWidth)
  deriving DecidableEq, Repr

namespace TemplateError

/-- The word that tells the causes apart in a written error. -/
def kind : TemplateError → String
  | .unknownFilter _ => "unknown_filter"
  | .unknownTester _ => "unknown_tester"
  | .widthMismatch _ _ => "width_mismatch"

/-- The sentence shown to the template's author. -/
def message : TemplateError → String
  | .unknownFilter name => "can't find filter '" ++ name ++ "'"
  | .unknownTester name => "can't find tester '" ++ name ++ "'"
  | .widthMismatch left right =>
    "can't combine " ++ left.name ++ " and " ++ right.name ++ " strings"

def code : TemplateError → ErrorCode
  | .unknownFilter _ => .unknownFilter
  | .unknownTester _ => .unknownTester
  | .widthMismatch _ _ => .widthMismatch

def category (e : TemplateError) : ErrorCategory := e.code.category

end TemplateError

end TemplateExpr
