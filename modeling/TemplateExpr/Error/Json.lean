/-
The JSON form of errors.

An error is an object whose member `kind` tells the cause and whose other members
hold what belongs to it.  Reading also takes an array that starts with the kind.
Members of other names are passed over, but the kind and the members that belong to
the cause must stand exactly once.
-/
import TemplateExpr.Error
import TemplateExpr.Json.Basic

namespace TemplateExpr

namespace TemplateError

/-- The name of the member that tells the cause. -/
def kindKey : String := "kind"

/-- The JSON form of an error. -/
def toJson (e : TemplateError) : Json :=
  .object (Dict.ofList ((kindKey, .string e.kind) ::
    match e with
    | .unknownFilter name => [("name", .string name)]
    | .unknownTester name => [("name", .string name)]
    | .widthMismatch left right => [("left", .string left.name), ("right", .string right.name)]))

/-- The only member of a name. -/
def only? (key : String) (members : List (Option String × Json.Tree)) : Option Json.Tree :=
  match members.filter fun m => m.1 == some key with
  | [(_, t)] => some t
  | _ => none

def string? : Json.Tree → Option String
  | .string s => s
  | _ => none

/-- Reads a width: its name, or an object whose only key is its name, with an empty value. -/
def width? : Json.Tree → Option CharWidth
  | .string (some s) => CharWidth.ofName? s
  | .object [(some s, .null)] => CharWidth.ofName? s
  | .object [(some s, .object [])] => CharWidth.ofName? s
  | _ => none

/-- The error of a kind, from the members of an object. -/
def ofMembers? (kind : String) (members : List (Option String × Json.Tree)) :
    Option TemplateError :=
  match kind with
  | "unknown_filter" => ((only? "name" members).bind string?).map .unknownFilter
  | "unknown_tester" => ((only? "name" members).bind string?).map .unknownTester
  | "width_mismatch" => do
    let left ← (only? "left" members).bind width?
    let right ← (only? "right" members).bind width?
    pure (.widthMismatch left right)
  | _ => none

/-- The error of a kind, from the rest of an array. -/
def ofItems? (kind : String) (items : List Json.Tree) : Option TemplateError :=
  match kind, items with
  | "unknown_filter", [name] => (string? name).map .unknownFilter
  | "unknown_tester", [name] => (string? name).map .unknownTester
  | "width_mismatch", [left, right] => do
    let left ← width? left
    let right ← width? right
    pure (.widthMismatch left right)
  | _, _ => none

def ofTree? : Json.Tree → Option TemplateError
  | .object members => do
    let kind ← (only? kindKey members).bind string?
    ofMembers? kind members
  | .array (kind :: items) => do
    let kind ← string? kind
    ofItems? kind items
  | _ => none

/-- Reads an error from JSON text, all of which must have values. -/
def ofText? (text : String) : Option TemplateError := do
  let tree ← Json.Tree.ofText? text
  let _ ← Json.ofTree? Json.depthLimit tree
  ofTree? tree

end TemplateError

end TemplateExpr
