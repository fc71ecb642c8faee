/-
Settings of a renderer and their JSON form.

The only setting is the width of the texts a renderer makes.  Settings are read from
an object, in which members of other names are passed over unread and a repeated
setting is refused, or from an array that holds the settings in order.  Settings left
out keep their defaults.
-/
import TemplateExpr.Json.Basic
import TemplateExpr.Error

namespace TemplateExpr

/-- What a renderer can be told. -/
structure Settings where
  targetWidth : CharWidth
  deriving DecidableEq

namespace Settings

instance : Inhabited Settings := ⟨⟨default⟩⟩

/-- The name of the width setting. -/
def widthKey : String := "target_width"

/-- Reads a width: its name, or an object with its name for the only key and null for the value. -/
def width? : Json.Tree → Option CharWidth
  | .string (some s) => CharWidth.ofName? s
  | .object [(some s, .null)] => CharWidth.ofName? s
  | _ => none

/-- Reads the members of an object; `found` is the width if it was there already. -/
def ofMembers? : (found : Option CharWidth) → List (Option String × Json.Tree) → Option Settings
  | found, [] => some ⟨found.getD default⟩
  | found, (key, t) :: ms =>
    match key with
    | none => none
    | some key =>
      if key = widthKey then
        match found, width? t with
        | none, some w => ofMembers? (some w) ms
        | _, _ => none
      else ofMembers? found ms

def ofTree? : Json.Tree → Option Settings
  | .object members => ofMembers? none members
  | .array [] => some default
  | .array [t] => (width? t).map Settings.mk
  | _ => none

/-- Reads settings from JSON text. -/
def ofText? (text : String) : Option Settings := (Json.Tree.ofText? text).bind ofTree?

/-- The JSON form of settings. -/
def toJson (s : Settings) : Json := .object (.ofList [(widthKey, .string s.targetWidth.name)])

end Settings

end TemplateExpr
