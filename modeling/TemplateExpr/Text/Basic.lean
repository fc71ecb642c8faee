/-
Template text in its own width.

A narrow text is a string, a wide one a list of code points.  Both are read through
one view, `chars`, and every operation is pinned down by what it does to the pair of
`width` and `chars`: converting between widths keeps the code points, appending adds
exactly the other text's code points and is refused when the widths differ.
-/
import TemplateExpr.Error

namespace TemplateExpr

/-- Template text: a string, or one element per code point. -/
inductive Text where
  | narrow (s : String)
  | wide (cs : List Char)
  deriving DecidableEq

namespace Text

instance : Inhabited Text := ⟨.narrow ""⟩

def width : Text → CharWidth
  | .narrow _ => .narrow
  | .wide _ => .wide

/-- The code points of a text, whatever its width. -/
def chars : Text → List Char
  | .narrow s => s.toList
  | .wide cs => cs

/-- The number of code points. -/
def length : Text → Nat
  | .narrow s => s.length
  | .wide cs => cs.length

def isEmpty : Text → Bool
  | .narrow s => s.isEmpty
  | .wide cs => cs.isEmpty

/-- The text as a plain string. -/
def toPlain : Text → String
  | .narrow s => s
  | .wide cs => String.ofList cs

/-! ### Building a text of a given width -/

def empty : CharWidth → Text
  | .narrow => .narrow ""
  | .wide => .wide []

def ofString (s : String) : CharWidth → Text
  | .narrow => .narrow s
  | .wide => .wide s.toList

def ofChars (cs : List Char) : CharWidth → Text
  | .narrow => .narrow (String.ofList cs)
  | .wide => .wide cs

/-! ### Changing a text -/

/-- Changes the code points and keeps the width. -/
def mapChars (f : List Char → List Char) : Text → Text
  | .narrow s => .narrow (String.ofList (f s.toList))
  | .wide cs => .wide (f cs)

/-- The same code points in the given width. -/
def toWidth : Text → CharWidth → Text
  | .wide cs, .narrow => .narrow (String.ofList cs)
  | .narrow s, .wide => .wide s.toList
  | t, _ => t

/-- Joins two texts of one width; texts of different widths do not join. -/
def append : Text → Text → Except TemplateError Text
  | .narrow a, .narrow b => .ok (.narrow (a ++ b))
  | .wide a, .wide b => .ok (.wide (a ++ b))
  | a, b => .error (.widthMismatch a.width b.width)

/-- Every narrow text comes before every wide one; within a width, code points decide. -/
instance : Ord Text where
  compare
    | .narrow a, .narrow b => compare a.toList b.toList
    | .wide a, .wide b => compare a b
    | .narrow _, .wide _ => .lt
    | .wide _, .narrow _ => .gt

/-! ### What each operation does to width and code points

Two texts with one width and the same code points are one text (`ext_chars`).  So these
equations determine every operation, and no later proof looks at the representation.
-/

@[simp] theorem chars_ofString (s : String) (w : CharWidth) : (ofString s w).chars = s.toList := by
  cases w <;> rfl

@[simp] theorem width_ofString (s : String) (w : CharWidth) : (ofString s w).width = w := by
  cases w <;> rfl

@[simp] theorem chars_ofChars (cs : List Char) (w : CharWidth) : (ofChars cs w).chars = cs := by
  cases w <;> simp [ofChars, chars]

@[simp] theorem width_ofChars (cs : List Char) (w : CharWidth) : (ofChars cs w).width = w := by
  cases w <;> rfl

@[simp] theorem chars_mapChars (f : List Char → List Char) (t : Text) :
    (t.mapChars f).chars = f t.chars := by
  cases t <;> simp [mapChars, chars]

@[simp] theorem width_mapChars (f : List Char → List Char) (t : Text) :
    (t.mapChars f).width = t.width := by
  cases t <;> rfl

@[simp] theorem chars_toWidth (t : Text) (w : CharWidth) : (t.toWidth w).chars = t.chars := by
  cases t <;> cases w <;> simp [toWidth, chars]

@[simp] theorem width_toWidth (t : Text) (w : CharWidth) : (t.toWidth w).width = w := by
  cases t <;> cases w <;> rfl

/-- A text is its width together with its code points. -/
theorem ofChars_chars (t : Text) : ofChars t.chars t.width = t := by
  cases t <;> simp [ofChars, chars, width]

/-- Texts of one width with the same code points are the same. -/
theorem ext_chars {s t : Text} (hw : s.width = t.width) (hc : s.chars = t.chars) : s = t := by
  rw [← ofChars_chars s, ← ofChars_chars t, hw, hc]

theorem toPlain_eq (t : Text) : t.toPlain = String.ofList t.chars := by
  cases t <;> simp [toPlain, chars]

theorem length_eq (t : Text) : t.length = t.chars.length := by
  cases t with
  | narrow s => exact String.length_toList.symm
  | wide cs => rfl

theorem isEmpty_eq (t : Text) : t.isEmpty = t.chars.isEmpty := by
  cases t with
  | narrow s => exact (Bool.eq_iff_iff.mpr (by simp [isEmpty, chars]))
  | wide cs => rfl

theorem append_of_eq {s t : Text} (h : s.width = t.width) :
    s.append t = .ok (ofChars (s.chars ++ t.chars) s.width) := by
  cases s with
  | narrow s =>
      cases t with
      | narrow t => simp [append, ofChars, chars, width, String.ofList_append]
      | wide t => exact absurd h (by simp [width])
  | wide s =>
      cases t with
      | narrow t => exact absurd h (by simp [width])
      | wide t => rfl

theorem append_of_ne {s t : Text} (h : s.width ≠ t.width) :
    s.append t = .error (.widthMismatch s.width t.width) := by
  cases s with
  | narrow s =>
      cases t with
      | narrow t => exact absurd rfl h
      | wide t => rfl
  | wide s =>
      cases t with
      | narrow t => rfl
      | wide t => exact absurd rfl h

end Text

end TemplateExpr
