/-
Changing a text that is held.

A text that is being built up is held and changed: another text is added at its end, it
is put into the other width, it is made anew out of its code points, or these are
replaced.  Only adding can be refused.  It is done in place, or by joining both texts
and holding what they make; after a refusal the text is still held as it was.
-/
import TemplateExpr.Text.Basic

namespace TemplateExpr

/-- Adds a text at the end of the one that is held. -/
def Text.appendToHeld (added : Text) : StateM Text (Except TemplateError Unit) := do
  match ← get, added with
  | .narrow a, .narrow b =>
    set (Text.narrow (a ++ b))
    pure (.ok ())
  | .wide a, .wide b =>
    set (Text.wide (a ++ b))
    pure (.ok ())
  | held, added => pure (.error (.widthMismatch held.width added.width))

/-- Adding in place leaves what joining would make, if it makes anything. -/
theorem Text.run_appendToHeld (held added : Text) :
    added.appendToHeld.run held = match held.append added with
      | .ok joined => (.ok (), joined)
      | .error e => (.error e, held) := by
  cases held <;> cases added <;> rfl

/-- A change of the text that is held. -/
inductive Edit where
  /-- Adds a text in place. -/
  | append (added : Text)
  /-- Joins the held text with another one. -/
  | concat (added : Text)
  | toWidth (w : CharWidth)
  /-- Takes the code points out and makes a text of a width of them. -/
  | rebuild (w : CharWidth)
  | mapChars (f : List Char → List Char)

namespace Edit

/-- Makes a change, and answers whether it was refused. -/
def apply : Edit → StateM Text (Except TemplateError Unit)
  | .append added => added.appendToHeld
  | .concat added => do
    match (← get).append added with
    | .ok joined =>
      set joined
      pure (.ok ())
    | .error e => pure (.error e)
  | .toWidth w => do
    modify (·.toWidth w)
    pure (.ok ())
  | .rebuild w => do
    modify fun held => .ofChars held.chars w
    pure (.ok ())
  | .mapChars f => do
    modify (·.mapChars f)
    pure (.ok ())

/-- Makes one change after the other, whether they are refused or not. -/
def run (edits : List Edit) : StateM Text (List (Except TemplateError Unit)) := edits.mapM apply

end Edit

end TemplateExpr
