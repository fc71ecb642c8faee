/-
The filters and testers, their names and their parameters.

A filter turns the text of a value into another text, or into a number.  A tester
answers a question about a value with yes or no; membership is the only one that looks
at an argument.  Templates name both; a name nobody knows is refused when the expression
is built.
-/
import TemplateExpr.Binding

namespace TemplateExpr

/-! ### Filters -/

/-- The transformations applied with `|`. -/
inductive Filter where
  | trim
  | title
  | wordCount
  | upper
  | lower
  | replace
  | truncate
  | urlEncode
  deriving DecidableEq, Repr

namespace Filter

def all : List Filter :=
  [.trim, .title, .wordCount, .upper, .lower, .replace, .truncate, .urlEncode]

def name : Filter → String
  | .trim => "trim"
  | .title => "title"
  | .wordCount => "wordcount"
  | .upper => "upper"
  | .lower => "lower"
  | .replace => "replace"
  | .truncate => "truncate"
  | .urlEncode => "urlencode"

/-- The filter of a name. -/
def ofName (name : String) : Except TemplateError Filter :=
  match all.find? (·.name == name) with
  | some f => .ok f
  | none => .error (.unknownFilter name)

/-- The parameters of a filter. -/
def formals : Filter → List Formal
  | .replace => [.required "old", .required "new", .withFallback "count" (.ofInt 0)]
  | .truncate =>
    [.withFallback "length" (.ofInt 255), .withFallback "killwords" (.ofBool false),
      .withFallback "end" (.ofText (.narrow "...")), .optional "leeway"]
  | _ => []

end Filter

/-! ### Testers -/

/-- The questions asked with `is`, and by the operator `in`. -/
inductive Tester where
  | mem
  | defined
  | undefined
  deriving DecidableEq, Repr

namespace Tester

def all : List Tester := [.mem, .defined, .undefined]

def name : Tester → String
  | .mem => "in"
  | .defined => "defined"
  | .undefined => "undefined"

/-- The tester of a name. -/
def ofName (name : String) : Except TemplateError Tester :=
  match all.find? (·.name == name) with
  | some t => .ok t
  | none => .error (.unknownTester name)

/-- The parameters of a tester. -/
def formals : Tester → List Formal
  | .mem => [.required "seq"]
  | _ => []

end Tester

end TemplateExpr
