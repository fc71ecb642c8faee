/-
Values whose texts have one width.

A value is uniform when it is no text of another width and holds uniform values only.
Whatever an operator, an index or a filter makes of uniform values is uniform again,
since a new text has the width of the text it was made of, or the target width when it
was made of something else.  So two texts that are to be joined have the same width and
are joined.
-/
import TemplateExpr.Proofs.Render.Append
import TemplateExpr.Proofs.Values.Held
import TemplateExpr.Proofs.Values.Reuse

namespace TemplateExpr

/-- Whether a value, if it is a text, and every text inside it have the given width. -/
def Value.uniform (w : CharWidth) (v : Value) : Bool :=
  v.everywhere fun u => u.asText?.all fun t => t.width == w

/-- A payload that is no text of another width and holds uniform values only. -/
structure Payload.Uniform (w : CharWidth) (data : Payload Value) : Prop where
  text : ∀ t, data = .text t → t.width = w
  held : ∀ u ∈ data.held, u.uniform w = true

variable {w : CharWidth} {v : Value} {p q : Payload Value}

theorem Value.uniform_iff : v.uniform w = true ↔ v.data.Uniform w := by
  obtain ⟨data, temporary, parent⟩ := v
  unfold uniform
  rw [everywhere_iff]
  constructor
  · intro h
    obtain ⟨htext, hheld⟩ := h
    refine ⟨fun t ht => ?_, hheld⟩
    obtain rfl : data = .text t := ht
    exact eq_of_beq htext
  · intro h
    obtain ⟨htext, hheld⟩ := h
    refine ⟨?_, hheld⟩
    cases data with
    | text t => exact beq_of_eq (htext t rfl)
    | _ => rfl

/-- Marks do not matter for being uniform. -/
theorem Value.uniform_of_data {u : Value} (h : u.uniform w = true) (hdata : v.data = u.data) :
    v.uniform w = true := by
  rw [uniform_iff, hdata]
  exact uniform_iff.mp h

namespace Payload.Uniform

theorem of_slot? (h : p.slot? = none) : p.Uniform w := by
  refine ⟨fun t ht => ?_, fun u hu => ?_⟩
  · rw [ht] at h
    exact absurd h (by simp [slot?])
  · rw [held_of_slot? h] at hu
    exact absurd hu List.not_mem_nil

theorem of_text {t : Text} (h : t.width = w) : (Payload.text t).Uniform w := by
  refine ⟨fun u hu => ?_, fun u hu => absurd hu List.not_mem_nil⟩
  obtain rfl : t = u := Payload.text.inj hu
  exact h

theorem of_list {vs : List Value} (h : ∀ u ∈ vs, u.uniform w = true) :
    (Payload.list (.owned vs)).Uniform w :=
  ⟨fun _ ht => absurd ht (by simp), h⟩

theorem of_map {es : Dict Value} (h : ∀ u ∈ es.values, u.uniform w = true) :
    (Payload.map (.owned es)).Uniform w :=
  ⟨fun _ ht => absurd ht (by simp), h⟩

theorem of_progression (count : Nat) (first step : Int64) :
    (Payload.list (.progression count first step)).Uniform w :=
  ⟨fun _ ht => absurd ht (by simp), fun _ hu => absurd hu List.not_mem_nil⟩

end Payload.Uniform

theorem Value.uniform_of (h : p.Uniform w) : (of p).uniform w = true := uniform_iff.mpr h

theorem Value.uniform_ofInt (i : Int64) : (ofInt i).uniform w = true := uniform_of (.of_slot? rfl)

/-! ### Texts that are joined -/

theorem Text.append_ofChars (cs cs' : List Char) (w : CharWidth) :
    (ofChars cs w).append (ofChars cs' w) = .ok (ofChars (cs ++ cs') w) := by
  rw [append_eq_extend (by simp)]
  exact congrArg Except.ok (ext_chars (by simp) (by simp))

theorem Value.chars_toOwnText (v : Value) (w : CharWidth) : (v.toOwnText w).chars = v.shown := by
  unfold toOwnText
  split
  · rename_i t ht
    unfold shown toText
    rw [ht, Text.chars_toWidth]
  · exact v.chars_toText w

/-- The text of a uniform value is what it is written with, in the one width. -/
theorem Value.toOwnText_eq (h : v.uniform w = true) : v.toOwnText w = .ofChars v.shown w := by
  refine Text.ext_chars ?_ ?_
  · unfold toOwnText
    split
    · rename_i t ht
      rw [(uniform_iff.mp h).text t ht, Text.width_ofChars]
    · rw [width_toText, Text.width_ofChars]
  · rw [chars_toOwnText, Text.chars_ofChars]

/-- **Joining uniform values joins their texts.** -/
theorem Value.data_concat_uniform {left right : Value} (hleft : left.uniform w = true)
    (hright : right.uniform w = true) :
    (left.concat w right).data = .text (.ofChars (left.shown ++ right.shown) w) := by
  rw [data_concat, toOwnText_eq hleft, toOwnText_eq hright, joined, Text.append_ofChars]
  rfl

/-- **The sum of texts of one width is a text.** -/
theorem Payload.add_text {s t : Text} (hs : s.width = w) (ht : t.width = w) :
    (Payload.text s).add (.text t) = .text (.ofChars (s.chars ++ t.chars) w) := by
  rw [← Text.ofChars_chars s, ← Text.ofChars_chars t, hs, ht]
  unfold add
  dsimp only
  rw [Text.append_ofChars, Text.chars_ofChars, Text.chars_ofChars]

/-! ### What is made of uniform values

A new text has the width of the text it was made of, or the target width when it was
made of something else.  Lists and maps hold what their operands held; so each operation
is settled by the kind of payload it makes.
-/

namespace Payload.Uniform

theorem add (hp : p.Uniform w) (hq : q.Uniform w) : (p.add q).Uniform w := by
  have hnumeric : (numeric Operands.add p q).Uniform w :=
    of_slot? (slot?_numeric Operands.slot?_add p q)
  cases p with
  | text s =>
      cases q with
      | text t =>
          rw [add_text (hp.text s rfl) (hq.text t rfl)]
          exact of_text (Text.width_ofChars _ w)
      | _ => exact hnumeric
  | list a =>
      cases q with
      | list b => exact of_list (forall_held_add Value.uniform_ofInt hp.held hq.held)
      | _ => exact hnumeric
  | _ => exact hnumeric

theorem mul (hp : p.Uniform w) (hq : q.Uniform w) : (p.mul q).Uniform w := by
  have hrepeat : ∀ t n, t.width = w → (repeatText t n).Uniform w :=
    fun t n ht => of_text ((Text.width_mapChars _ t).trans ht)
  unfold Payload.mul
  split
  · exact hrepeat _ _ (hp.text _ rfl)
  · exact hrepeat _ _ (hq.text _ rfl)
  · exact of_slot? (slot?_numeric Operands.slot?_mul _ _)

end Payload.Uniform

namespace Value

variable {u : Value}

theorem uniform_binary (op : BinaryOp) (hv : v.uniform w = true) (hu : u.uniform w = true) :
    (of (op.apply v u)).uniform w = true := by
  have hv := uniform_iff.mp hv
  have hu := uniform_iff.mp hu
  refine uniform_of ?_
  by_cases hadd : op = .add
  · subst hadd
    exact hv.add hu
  · by_cases hmul : op = .mul
    · subst hmul
      exact hv.mul hu
    · exact .of_slot? (op.slot?_apply hadd hmul v u)

theorem uniform_unary (op : UnaryOp) (v : Value) : (of (op.apply v)).uniform w = true :=
  uniform_of (.of_slot? (op.slot?_apply v))

theorem uniform_concat (hv : v.uniform w = true) (hu : u.uniform w = true) :
    (v.concat w u).uniform w = true := by
  rw [uniform_iff, data_concat_uniform hv hu]
  exact .of_text (Text.width_ofChars _ w)

theorem uniform_reading (key : Value) (hv : v.uniform w = true) :
    (v.reading key).1.uniform w = true := by
  have hv := uniform_iff.mp hv
  refine of_reading_held (P := fun u => u.uniform w = true) uniform_ofInt
    (uniform_of (.of_slot? rfl)) ?_ hv.held
  intro t c ht hc
  exact uniform_of (.of_text (hc.trans (hv.text t ht)))

theorem uniform_get? {m : MapSource Value} {key : String} (hv : v.uniform w = true)
    (hm : v.asMap? = some m) (hu : m.get? key = some u) : u.uniform w = true := by
  refine (uniform_iff.mp hv).held u ?_
  rw [data_of_asMap? hm]
  exact MapSource.held_of_get? hu

/-- The result of a filter has the width of the text it was applied to. -/
theorem uniform_filter (f : Filter) (args : List Value) (hv : v.uniform w = true) :
    (of (f.result (v.toOwnText w) args)).uniform w = true := by
  refine uniform_of ?_
  rw [toOwnText_eq hv]
  unfold Filter.result
  split
  all_goals first
    | exact .of_slot? rfl
    | exact .of_text (by simp)

end Value

end TemplateExpr
