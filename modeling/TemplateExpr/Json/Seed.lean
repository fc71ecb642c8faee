/-
Values from JSON documents.

Null is the empty value, numbers keep their kind, and every string, array and object
takes a slot of the pool, children before the container that holds them.  A document
that is an object can also be read as a scope, which needs no slot of its own.
-/
import TemplateExpr.Json.Basic
import TemplateExpr.Pool

namespace TemplateExpr.Json

mutual

/-- The value of a document. -/
def seed : (j : Json) → StateM Pool Value
  | .null => pure .empty
  | .bool b => pure (.ofBool b)
  | .number (.whole i) => pure (.ofInt i)
  | .number (.double d) => pure (.of (.double d))
  | .string s => Pool.create (.text (.narrow s))
  | .array items => do Pool.create (.list (.owned (← seedItems items)))
  | .object members => do Pool.create (.map (.owned (← seedMembers members)))
termination_by structural j => j

def seedItems : (js : List Json) → StateM Pool (List Value)
  | [] => pure []
  | j :: js => do
    let v ← seed j
    let vs ← seedItems js
    pure (v :: vs)
termination_by structural js => js

def seedMembers :
    {bound : Option String} → (ms : Dict Json bound) → StateM Pool (Dict Value bound)
  | _, .nil => pure .nil
  | _, .cons key j above ms => do
    let v ← seed j
    let vs ← seedMembers ms
    pure (.cons key v above vs)
termination_by structural _ ms => ms

end

/-- The scope an object stands for; any other document is an empty one. -/
def seedScope : Json → StateM Pool (Dict Value)
  | .object members => seedMembers members
  | _ => pure .nil

end TemplateExpr.Json
