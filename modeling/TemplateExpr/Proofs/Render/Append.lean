/-
Rendering only ever adds to its buffer.

A buffer is extended with the code points of what is written, in its own width, so a
write is never refused and the width of a buffer never changes.  What a renderer adds
does not depend on the buffer either: `Writes` says that a renderer does to every
buffer what writing the values of one computation does.  It is closed under the ways
renderers are put together.
-/
import TemplateExpr.Eval.Expr

namespace TemplateExpr

namespace Text

/-- A text with more code points at its end. -/
def extend (t : Text) (cs : List Char) : Text := t.mapChars (· ++ cs)

@[simp] theorem width_extend (t : Text) (cs : List Char) : (t.extend cs).width = t.width :=
  width_mapChars _ t

@[simp] theorem chars_extend (t : Text) (cs : List Char) : (t.extend cs).chars = t.chars ++ cs :=
  chars_mapChars _ t

@[simp] theorem extend_nil (t : Text) : t.extend [] = t :=
  ext_chars (by simp) (by simp)

@[simp] theorem extend_extend (t : Text) (cs cs' : List Char) :
    (t.extend cs).extend cs' = t.extend (cs ++ cs') :=
  ext_chars (by simp) (by simp)

@[simp] theorem width_empty (w : CharWidth) : (empty w).width = w := by
  cases w <;> rfl

@[simp] theorem chars_empty (w : CharWidth) : (empty w).chars = [] := by
  cases w <;> rfl

/-- A text of the same width is appended code point by code point. -/
theorem append_eq_extend {s t : Text} (h : s.width = t.width) :
    s.append t = .ok (s.extend t.chars) := by
  rw [append_of_eq h]
  exact congrArg Except.ok (ext_chars (by simp) (by simp))

end Text

/-- The code points a value is written with. -/
def Value.shown (v : Value) : List Char := (v.toText .narrow).chars

theorem Value.chars_toText (v : Value) (w : CharWidth) : (v.toText w).chars = v.shown := by
  unfold shown toText
  split <;> simp

/-- A write is never refused. -/
theorem Text.write_eq (b : Text) (v : Value) : b.write v = b.extend v.shown := by
  unfold write
  rw [append_eq_extend (by simp), Value.chars_toText]

/-- Writing values one after the other adds the code points of each. -/
theorem Text.foldl_write_eq (vs : List Value) (b : Text) :
    vs.foldl Text.write b = b.extend (vs.flatMap Value.shown) := by
  induction vs generalizing b with
  | nil => exact (Text.extend_nil b).symm
  | cons v vs ih =>
      rw [List.foldl_cons, ih, Text.write_eq, Text.extend_extend, List.flatMap_cons]

/-! ### Renderers that write values -/

/-- Whatever the buffer, `r` writes the values of `m` to it in order and leaves what `m` leaves. -/
def Writes (r : Text → EvalM Text) (m : EvalM (List Value)) : Prop :=
  ∀ b, r b = (fun vs => vs.foldl Text.write b) <$> m

namespace Writes

variable {r r' : Text → EvalM Text} {m m' : EvalM (List Value)}

theorem nothing : Writes (fun b => pure b) (pure []) := by
  intro b
  simp

theorem value (v : Value) : Writes (fun b => pure (b.write v)) (pure [v]) := by
  intro b
  simp

theorem outOfDepth : Writes (fun _ => EvalM.outOfDepth) EvalM.outOfDepth := fun _ => rfl

/-- One renderer after the other. -/
theorem bind (h : Writes r m) (h' : Writes r' m') :
    Writes (fun b => r b >>= r') (do pure ((← m) ++ (← m'))) := by
  intro b
  have hr' : r' = fun b => (fun vs => vs.foldl Text.write b) <$> m' := funext h'
  simp [h b, hr', List.foldl_append]

/-- A renderer chosen by a computation that has no buffer. -/
theorem after {α : Type} (k : EvalM α) {r : α → Text → EvalM Text} {m : α → EvalM (List Value)}
    (h : ∀ x, Writes (r x) (m x)) : Writes (fun b => k >>= fun x => r x b) (k >>= m) := by
  intro b
  simp [fun x => h x b]

/-- A renderer followed by a step that has no buffer. -/
theorem finish (h : Writes r m) (k : EvalM Unit) :
    Writes (fun b => r b >>= fun t => k >>= fun _ => pure t)
      (m >>= fun vs => k >>= fun _ => pure vs) := by
  intro b
  simp [h b]

end Writes

end TemplateExpr
