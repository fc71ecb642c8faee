/-
JSON documents.

A document is a tree in which every string and number has a value, containers are
nested no deeper than the limit, and each object has its keys in order, the last of
several equal ones winning.
-/
import TemplateExpr.Dict
import TemplateExpr.Json.Number
import TemplateExpr.Json.Tree

namespace TemplateExpr

/-- A JSON document. -/
inductive Json where
  | null
  | bool (b : Bool)
  | number (n : Json.Number)
  | string (s : String)
  | array (items : List Json)
  | object (members : Dict Json)

namespace Json

/-- How deep arrays and objects may be nested. -/
def depthLimit : Nat := 127

mutual

/-- The document of a tree nested no deeper than `depth`. -/
def ofTree? : (depth : Nat) → (t : Tree) → Option Json
  | _, .null => some .null
  | _, .bool b => some (.bool b)
  | _, .number n => n.number?.map .number
  | _, .string s => s.map .string
  | 0, .array _ => none
  | depth + 1, .array items => (ofItems? depth items).map .array
  | 0, .object _ => none
  | depth + 1, .object members => (ofMembers? depth members).map fun ms => .object (Dict.ofList ms)
termination_by structural _ t => t

def ofItems? : (depth : Nat) → (ts : List Tree) → Option (List Json)
  | _, [] => some []
  | depth, t :: ts => do
    let v ← ofTree? depth t
    let vs ← ofItems? depth ts
    pure (v :: vs)
termination_by structural _ ts => ts

def ofMembers? : (depth : Nat) → (ms : List (Option String × Tree)) → Option (List (String × Json))
  | _, [] => some []
  | depth, m :: ms => do
    let entry ← ofMember? depth m
    let entries ← ofMembers? depth ms
    pure (entry :: entries)
termination_by structural _ ms => ms

def ofMember? : (depth : Nat) → (m : Option String × Tree) → Option (String × Json)
  | depth, (key, t) => do
    let key ← key
    let v ← ofTree? depth t
    pure (key, v)
termination_by structural _ m => m

end

/-- Reads a document. -/
def ofText? (text : String) : Option Json := do
  ofTree? depthLimit (← Tree.ofText? text)

end Json

end TemplateExpr
