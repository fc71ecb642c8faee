/-
A text is a width with code points.

A text is kept as a string or as one element for each code point, and every change has a
case for each of the two.  None of this shows.  A spelling is a width and a list without
any representation, and what is done to a text can be done to its spelling.  A single
change answers the same on both sides and leaves a text that is spelt as the spelling
says; that carries a whole run, by induction on its changes, and whatever is asked of a
text can be told from its spelling.

What is asked of a text is put together in `Text.Shows`: its width, its code points, their
number, whether there are any, and its plain form.
-/
import TemplateExpr.Text.Edit

namespace TemplateExpr

/-! ### Spellings -/

/-- A width, and code points in no representation. -/
structure Spelling where
  width : CharWidth
  chars : List Char

/-- Adds code points to the spelling that is held, if they come in its width. -/
def Spelling.join (added : Spelling) : StateM Spelling (Except TemplateError Unit) := do
  let held ← get
  if held.width = added.width then
    set { held with chars := held.chars ++ added.chars }
    pure (.ok ())
  else
    pure (.error (.widthMismatch held.width added.width))

/-- How a text is spelt. -/
def Text.spelling : Text → Spelling
  | .narrow s => ⟨.narrow, s.toList⟩
  | .wide cs => ⟨.wide, cs⟩

namespace Edit

/-- The change of a text, made to a spelling. -/
def respell : Edit → StateM Spelling (Except TemplateError Unit)
  | .append added | .concat added => added.spelling.join
  | .toWidth w | .rebuild w => do
    modify fun held => { held with width := w }
    pure (.ok ())
  | .mapChars f => do
    modify fun held => { held with chars := f held.chars }
    pure (.ok ())

/-- Makes one change of a spelling after the other, whether they are refused or not. -/
def respellEach (edits : List Edit) : StateM Spelling (List (Except TemplateError Unit)) :=
  edits.mapM respell

end Edit

/-- Whatever is asked of the text can be told from the spelling. -/
structure Text.Shows (t : Text) (p : Spelling) : Prop where
  width : t.width = p.width
  chars : t.chars = p.chars
  length : t.length = p.chars.length
  isEmpty : t.isEmpty = true ↔ p.chars = []
  toPlain : t.toPlain = String.ofList p.chars

/-- What comes of adding a text to the one that is held: an answer, and what is held then. -/
inductive Adds (held added : Text) : Except TemplateError Unit → Text → Prop
  | joined {u : Text} (hwidth : held.width = added.width) (hkept : u.width = held.width)
      (hchars : u.chars = held.chars ++ added.chars) : Adds held added (.ok ()) u
  | refused (hwidth : held.width ≠ added.width) :
      Adds held added (.error (.widthMismatch held.width added.width)) held

variable {held added u : Text} {answer : Except TemplateError Unit}

theorem Text.spelling_eq (t : Text) : t.spelling = ⟨t.width, t.chars⟩ := by
  cases t <;> rfl

theorem Text.shows_spelling (t : Text) : t.Shows t.spelling := by
  rw [spelling_eq]
  refine ⟨rfl, rfl, t.length_eq, ?_, t.toPlain_eq⟩
  rw [isEmpty_eq, List.isEmpty_iff]

/-! ### Adding a text

Adding is the one change that can be refused, and it comes in two ways: in place, and by
making a new text out of both.  They are refused in the same cases and hold the same
text afterwards.
-/

/-- Exactly one thing comes of adding a text. -/
theorem adds_iff :
    Adds held added answer u ↔
      if held.width = added.width then
        answer = .ok () ∧ u = .ofChars (held.chars ++ added.chars) held.width
      else answer = .error (.widthMismatch held.width added.width) ∧ u = held := by
  constructor
  · intro h
    cases h with
    | joined hwidth hkept hchars =>
        rw [if_pos hwidth]
        exact ⟨rfl, Text.ext_chars (by simpa using hkept) (by simpa using hchars)⟩
    | refused hwidth =>
        rw [if_neg hwidth]
        exact ⟨rfl, rfl⟩
  · intro h
    by_cases hwidth : held.width = added.width
    · rw [if_pos hwidth] at h
      obtain ⟨rfl, rfl⟩ := h
      exact .joined hwidth (by simp) (by simp)
    · rw [if_neg hwidth] at h
      obtain ⟨rfl, rfl⟩ := h
      exact .refused hwidth

theorem run_appendToHeld_eq_iff :
    added.appendToHeld.run held = (answer, u) ↔ Adds held added answer u := by
  rw [adds_iff, Text.run_appendToHeld]
  by_cases hwidth : held.width = added.width
  · rw [if_pos hwidth, Text.append_of_eq hwidth, Prod.ext_iff]
    simp only [eq_comm]
  · rw [if_neg hwidth, Text.append_of_ne hwidth, Prod.ext_iff]
    simp only [eq_comm]

theorem append_eq_ok_iff : held.append added = .ok u ↔ Adds held added (.ok ()) u := by
  rw [← run_appendToHeld_eq_iff, Text.run_appendToHeld, Prod.ext_iff]
  cases held.append added <;> simp

theorem append_eq_error_iff {e : TemplateError} :
    held.append added = .error e ↔ Adds held added (.error e) held := by
  rw [← run_appendToHeld_eq_iff, Text.run_appendToHeld, Prod.ext_iff]
  cases held.append added <;> simp

theorem Spelling.run_join (held added : Spelling) :
    added.join.run held =
      if held.width = added.width then (.ok (), ⟨held.width, held.chars ++ added.chars⟩)
      else (.error (.widthMismatch held.width added.width), held) := by
  unfold join
  rw [StateT.run_bind, StateT.run_get, pure_bind]
  by_cases hwidth : held.width = added.width
  · rw [if_pos hwidth, if_pos hwidth]
    rfl
  · rw [if_neg hwidth, if_neg hwidth]
    rfl

/-- What comes of adding a text to another comes of adding its spelling to the other's. -/
theorem Adds.run_join (h : Adds held added answer u) :
    added.spelling.join.run held.spelling = (answer, u.spelling) := by
  rw [Spelling.run_join, held.spelling_eq, added.spelling_eq, u.spelling_eq]
  cases h with
  | joined hwidth hkept hchars => rw [if_pos hwidth, hkept, hchars]
  | refused hwidth => rw [if_neg hwidth]

/-! ### Changes of spellings

A run is changes in a state, and `Spells` relates a computation over texts with one over
spellings.  It is closed under sequencing and under `mapM`, so a run is settled by its
single changes.
-/

/-- What one computation does to a text the other does to its spelling, and both give the same. -/
def Spells {α : Type} (m : StateM Text α) (n : StateM Spelling α) : Prop :=
  ∀ t, n.run t.spelling = ((m.run t).1, (m.run t).2.spelling)

namespace Spells

variable {α β ι : Type} {m : StateM Text α} {n : StateM Spelling α}

theorem pure (a : α) : Spells (Pure.pure a) (Pure.pure a) := fun _ => rfl

theorem modify {f : Text → Text} {g : Spelling → Spelling}
    (h : ∀ t, g t.spelling = (f t).spelling) : Spells (modify f) (modify g) :=
  fun t => Prod.ext rfl (h t)

theorem bind {f : α → StateM Text β} {g : α → StateM Spelling β} (h : Spells m n)
    (hf : ∀ a, Spells (f a) (g a)) : Spells (m >>= f) (n >>= g) := by
  intro t
  rw [StateT.run_bind, h t]
  exact hf _ _

theorem mapM {f : ι → StateM Text α} {g : ι → StateM Spelling α} (h : ∀ i, Spells (f i) (g i))
    (is : List ι) : Spells (is.mapM f) (is.mapM g) := by
  induction is with
  | nil => exact .pure []
  | cons i is ih =>
      rw [List.mapM_cons, List.mapM_cons]
      -- What the first one leaves is again a text and its spelling.
      exact (h i).bind fun a => ih.bind fun as => .pure (a :: as)

end Spells

/-- Adding a text adds its spelling. -/
theorem appendToHeld_spells (added : Text) : Spells added.appendToHeld added.spelling.join :=
  fun _ => (run_appendToHeld_eq_iff.mp rfl).run_join

namespace Edit

/-- It makes no difference whether a text is added in place. -/
theorem apply_concat (added : Text) : (concat added).apply = added.appendToHeld := by
  funext held
  refine Eq.trans ?_ (Text.run_appendToHeld held added).symm
  show (concat added).apply.run held = _
  unfold apply
  rw [StateT.run_bind, StateT.run_get, pure_bind]
  cases held.append added <;> rfl

/-- **A change of a text is the change of its spelling.** -/
theorem apply_spells (e : Edit) : Spells e.apply e.respell := by
  cases e with
  | append added => exact appendToHeld_spells added
  | concat added =>
      rw [apply_concat]
      exact appendToHeld_spells added
  | toWidth w =>
      refine Spells.bind (.modify fun t => ?_) fun _ => .pure _
      simp [Text.spelling_eq]
  | rebuild w =>
      refine Spells.bind (.modify fun t => ?_) fun _ => .pure _
      simp [Text.spelling_eq]
  | mapChars f =>
      refine Spells.bind (.modify fun t => ?_) fun _ => .pure _
      simp [Text.spelling_eq]

end Edit

/--
**A text is a width with code points.**  Whatever changes are made to it, what they answer
and what can be asked of the text afterwards is told by making them to its spelling.  A text
is added, in place or not, exactly if it has the width of the one held, and then its code
points and nothing else come behind those held; otherwise both widths are reported and the
text is held as it was.  A text in another width has the same code points, and is the same
text again in its own.
-/
theorem texts_refine_spellings (t : Text) :
    (∀ edits, ∃ answers u p, (Edit.run edits).run t = (answers, u) ∧
      (Edit.respellEach edits).run t.spelling = (answers, p) ∧ u.Shows p) ∧
    (∀ added answer u, added.appendToHeld.run t = (answer, u) ↔ Adds t added answer u) ∧
    (∀ added u, t.append added = .ok u ↔ Adds t added (.ok ()) u) ∧
    (∀ added e, t.append added = .error e ↔ Adds t added (.error e) t) ∧
    ∀ w, (t.toWidth w).chars = t.chars ∧ (t.toWidth w).toWidth t.width = t := by
  refine ⟨fun edits => ?_, fun added answer u => run_appendToHeld_eq_iff,
    fun added u => append_eq_ok_iff, fun added e => append_eq_error_iff, fun w => ⟨?_, ?_⟩⟩
  · have hspells := Spells.mapM Edit.apply_spells edits t
    exact ⟨_, _, _, rfl, hspells, Text.shows_spelling _⟩
  · exact t.chars_toWidth w
  · exact Text.ext_chars (by simp) (by simp)

/-- A wide text is refused until the held one is wide itself. -/
example :
    (Edit.run [.append (.wide ['é']), .toWidth .wide, .append (.wide ['é']), .toWidth .narrow]).run
        (.narrow "h") =
      ([.error (.widthMismatch .narrow .wide), .ok (), .ok (), .ok ()], .narrow "hé") := by
  rfl

end TemplateExpr
