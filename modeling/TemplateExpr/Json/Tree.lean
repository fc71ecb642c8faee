/-
The structure of a JSON text.

A tree keeps everything the text says: the members of an object in their order, with
those that repeat a key, and strings and numbers that have no value of their own.  A
reader that skips a member never looks into it.
-/
import TemplateExpr.Json.Token

namespace TemplateExpr.Json

/-- A JSON text by its structure. -/
inductive Tree where
  | null
  | bool (b : Bool)
  | number (n : Numeral)
  | string (s : Option String)
  | array (items : List Tree)
  | object (members : List (Option String × Tree))

mutual

/-- Reads the value that tokens start with. -/
def value? : (fuel : Nat) → List Token → Option (Tree × List Token)
  | 0, _ => none
  | fuel + 1, ts =>
    match ts with
    | .null :: ts => some (.null, ts)
    | .bool b :: ts => some (.bool b, ts)
    | .number n :: ts => some (.number n, ts)
    | .string s :: ts => some (.string s, ts)
    | .openArray :: .closeArray :: ts => some (.array [], ts)
    | .openArray :: ts => do
      let (items, ts) ← items? fuel ts
      pure (.array items, ts)
    | .openObject :: .closeObject :: ts => some (.object [], ts)
    | .openObject :: ts => do
      let (members, ts) ← members? fuel ts
      pure (.object members, ts)
    | _ => none

/-- Reads the items of an array and its end. -/
def items? : (fuel : Nat) → List Token → Option (List Tree × List Token)
  | 0, _ => none
  | fuel + 1, ts => do
    let (v, ts) ← value? fuel ts
    match ts with
    | .closeArray :: ts => pure ([v], ts)
    | .comma :: ts => do
      let (vs, ts) ← items? fuel ts
      pure (v :: vs, ts)
    | _ => none

/-- Reads the members of an object and its end. -/
def members? : (fuel : Nat) → List Token → Option (List (Option String × Tree) × List Token)
  | 0, _ => none
  | fuel + 1, ts =>
    match ts with
    | .string key :: .colon :: ts => do
      let (v, ts) ← value? fuel ts
      match ts with
      | .closeObject :: ts => pure ([(key, v)], ts)
      | .comma :: ts => do
        let (ms, ts) ← members? fuel ts
        pure ((key, v) :: ms, ts)
      | _ => none
    | _ => none

end

/-- The tree of a text that holds one value and nothing else. -/
def Tree.ofText? (text : String) : Option Tree := do
  let ts ← tokens? text.toList
  match ← value? (2 * ts.length + 1) ts with
  | (tree, []) => pure tree
  | _ => none

end TemplateExpr.Json
