/-
Values with all their texts in another width.

`inWidth` converts a value, every value it holds and the values it hangs off, and keeps
the marks.  It is a recast, and on values whose texts have one width it is one that no
operation can tell: texts that could be joined can still be joined.  So a uniform value
corresponds to its conversion in everything evaluation does with values.

Conversion forgets nothing: two uniform values that are converted alike were alike.  So
the likeness can be read as an equation, and what is alike for it is the image of the
other side.
-/
import TemplateExpr.Proofs.Values.Recast
import TemplateExpr.Proofs.Widths.Uniform

namespace TemplateExpr

/-- A value with every text in it in the given width; the marks stay. -/
def Value.inWidth (w : CharWidth) : Value → Value :=
  Value.fold fun data temporary parent => ⟨data.mapText (·.toWidth w), temporary, parent⟩

section

variable (w : CharWidth)

theorem Value.inWidth_eq (v : Value) :
    v.inWidth w =
      ⟨v.data.recast (fun _ => w) (inWidth w), v.temporary, v.parent.map (inWidth w)⟩ := by
  obtain ⟨data, temporary, parent⟩ := v
  exact Value.fold_mk _ data temporary parent

/-- Converting texts to a width. -/
def Recast.inWidth : Recast where
  width := fun _ => w
  value := Value.inWidth w
  data_value := fun v => congrArg Value.data (v.inWidth_eq w)
  value_of := fun d => (Value.of d).inWidth_eq w

end

/-! ### Marks stay -/

namespace Value

variable (w : CharWidth) (v : Value)

theorem parent_inWidth : (v.inWidth w).parent = v.parent.map (inWidth w) := by
  rw [v.inWidth_eq]

theorem temporary_inWidth : (v.inWidth w).temporary = v.temporary := by
  rw [v.inWidth_eq]

theorem asTemporary_inWidth : (v.inWidth w).asTemporary = v.asTemporary.inWidth w := by
  rw [v.inWidth_eq, v.asTemporary.inWidth_eq]
  rfl

theorem setParent_inWidth (p : Value) :
    (v.inWidth w).setParent (p.inWidth w) = (v.setParent p).inWidth w := by
  rw [v.inWidth_eq, (v.setParent p).inWidth_eq]
  rfl

theorem data_inWidth : (v.inWidth w).data = v.data.recast (fun _ => w) (inWidth w) :=
  (Recast.inWidth w).data_value v

theorem extendsLifetime_inWidth : (v.inWidth w).extendsLifetime = v.extendsLifetime := by
  have howns : (v.inWidth w).data.owns = v.data.owns := by
    rw [data_inWidth]
    cases v.data with
    | list l => cases l <;> rfl
    | map m => cases m <;> rfl
    | _ => rfl
  unfold extendsLifetime
  rw [howns, parent_inWidth, Option.isSome_map]

theorem inWidth_of (data : Payload Value) :
    (of data).inWidth w = of (data.recast (fun _ => w) (inWidth w)) :=
  (Recast.inWidth w).value_of data

theorem shown_inWidth : (v.inWidth w).shown = v.shown :=
  congrArg Text.chars ((Recast.inWidth w).toText v .narrow)

end Value

/-! ### Uniform values and their conversions

Converting values of mixed widths could make texts joinable that were not.  On uniform
values no text has another width to begin with, so `Joins` holds of any two texts and
the likeness is respected.
-/

/--
A value of width `w` corresponds to its conversion to `w'`.  Encoding for a URL works on
the bytes of a narrow text and on the code points of a wide one, so that filter is
allowed only where nothing changes.
-/
def Likeness.converting (w w' : CharWidth) : Likeness :=
  ⟨fun v v' => v.uniform w = true ∧ v.inWidth w' = v', fun t t' => t.width = w ∧ t.toWidth w' = t',
    fun f => f = .urlEncode → w = w'⟩

section

variable {w w' : CharWidth}

/-- What a conversion does not change is the same for corresponding values. -/
theorem same_of_converting {α : Type} {f : Value → α} (hf : ∀ v, f (v.inWidth w') = f v)
    {v v' : Value} (h : (Likeness.converting w w').value v v') : f v = f v' := by
  obtain ⟨-, rfl⟩ := h
  exact (hf v).symm

theorem rel_converting {o : Option Value} (h : ∀ v ∈ o, v.uniform w = true) :
    Option.Rel (Likeness.converting w w').value o (o.map (Value.inWidth w')) := by
  cases o with
  | none => exact .none
  | some v => exact .some ⟨h v rfl, rfl⟩

/-- Converted values make a converted list. -/
theorem eq_of_forall₂_converting {vs vs' : List Value}
    (h : List.Forall₂ (Likeness.converting w w').value vs vs') :
    (∀ u ∈ vs, u.uniform w = true) ∧ vs.map (Value.inWidth w') = vs' := by
  obtain ⟨huniform, heq⟩ := (List.forall₂_and_left vs vs').mp h
  refine ⟨huniform, ?_⟩
  rw [← List.forall₂_eq_eq_eq]
  exact List.forall₂_map_left_iff.mpr heq

theorem eq_of_alike_converting {es es' : Dict Value}
    (h : Dict.Alike (Likeness.converting w w').value es es') :
    (∀ u ∈ es.values, u.uniform w = true) ∧ Dict.mapValues (Value.inWidth w') es = es' := by
  refine ⟨(eq_of_forall₂_converting (Dict.values_alike h)).1, ?_⟩
  rw [Dict.mapValues_eq_of_alike (g := id) h fun _ _ hv => hv.2, Dict.mapValues_id]

/-- The text of a converted value is the text of the value, converted. -/
theorem Value.toOwnText_inWidth {v : Value} (hv : v.uniform w = true) :
    (v.inWidth w').toOwnText w' = .ofChars v.shown w' := by
  refine ((Recast.inWidth w').toOwnText v w).trans ?_
  rw [toOwnText_eq hv]
  exact Text.ext_chars (by simp [Recast.inWidth]) (by simp)

/-- Joining converted values gives the conversion of what joining the values gives. -/
theorem Value.concat_inWidth {v u : Value} (hv : v.uniform w = true) (hu : u.uniform w = true) :
    (v.concat w u).inWidth w' = (v.inWidth w').concat w' (u.inWidth w') := by
  have htext : (v.inWidth w').asText? = v.asText?.map (Text.recast fun _ => w') :=
    (Recast.inWidth w').asText? v
  rw [concat_eq, concat_eq, toOwnText_eq hv, toOwnText_eq hu, toOwnText_inWidth hv,
    toOwnText_inWidth hu, Text.append_ofChars, Text.append_ofChars, htext, temporary_inWidth,
    Option.isSome_map, parent_inWidth]
  refine (inWidth_eq w' _).trans ?_
  show Value.mk (.text _) true (Option.map (inWidth w') _) = Value.mk (.text _) true _
  rw [apply_ite (Option.map (inWidth w'))]
  have hchars : ∀ cs, (Text.ofChars cs w).recast (fun _ => w') = .ofChars cs w' :=
    fun cs => Text.ext_chars (by simp) (by simp)
  rw [hchars]
  rfl

/-- Where a filter looks at no width, its result on a converted value is the converted result. -/
theorem Value.result_inWidth {f : Filter} (hf : f = .urlEncode → w = w') {v : Value}
    (hv : v.uniform w = true) {args args' : List Value}
    (hargs : List.Forall₂ SameArgument args args') :
    (Value.of (f.result (v.toOwnText w) args)).inWidth w' =
      .of (f.result ((v.inWidth w').toOwnText w') args') := by
  have hwidth : f = .urlEncode →
      (Recast.inWidth w').width (v.toOwnText w).width = (v.toOwnText w).width := by
    intro h
    rw [toOwnText_eq hv, Text.width_ofChars]
    exact (hf h).symm
  rw [inWidth_of, f.result_congr _ hargs]
  refine congrArg Value.of (((Recast.inWidth w').filter f args' hwidth).trans ?_)
  rw [← (Recast.inWidth w').toOwnText v w]
  rfl

theorem Likeness.converting_respects (w w' : CharWidth) :
    (Likeness.converting w w').Respects w w' where
  slot := fun h =>
    same_of_converting (f := fun v => v.data.slot?.isSome) (Recast.inWidth w').isSome_slot? h
  isEmpty := fun h => same_of_converting (Recast.inWidth w').isEmpty h
  truthy := fun h => same_of_converting (Recast.inWidth w').truthy h
  toInt := fun h default =>
    same_of_converting (f := (·.toInt default)) ((Recast.inWidth w').toInt · default) h
  asBuiltin? := fun h => same_of_converting (Recast.inWidth w').asBuiltin? h
  asFunction? := fun h => same_of_converting (Recast.inWidth w').asFunction? h
  asMap? := by
    intro v v' h
    obtain ⟨hv, rfl⟩ := h
    have hmap : (v.inWidth w').asMap? = v.asMap?.map (MapSource.map (Value.inWidth w')) :=
      (Recast.inWidth w').asMap? v
    rw [hmap]
    cases hm : v.asMap? with
    | none => exact .none
    | some m =>
        refine .some fun key => ?_
        rw [MapSource.get?_map]
        exact rel_converting fun u hu => Value.uniform_get? hv hm hu
  memberOf := by
    intro v v' s s' hv hs
    obtain ⟨-, rfl⟩ := hv
    obtain ⟨-, rfl⟩ := hs
    exact ((Recast.inWidth w').memberOf v s).symm
  empty := ⟨Value.uniform_of (.of_slot? rfl), rfl⟩
  bool := fun _ => ⟨Value.uniform_of (.of_slot? rfl), rfl⟩
  ofText := by
    intro t t' h
    obtain ⟨ht, rfl⟩ := h
    exact ⟨Value.uniform_of (.of_text ht), rfl⟩
  list := by
    intro vs vs' h
    obtain ⟨huniform, rfl⟩ := eq_of_forall₂_converting h
    exact ⟨Value.uniform_of (.of_list huniform), Value.inWidth_of w' _⟩
  map := by
    intro es es' h
    obtain ⟨huniform, rfl⟩ := eq_of_alike_converting h
    exact ⟨Value.uniform_of (.of_map huniform), Value.inWidth_of w' _⟩
  progression := fun count first step => ⟨Value.uniform_of (.of_progression count first step), rfl⟩
  made := by
    intro d d' h
    obtain ⟨hd, heq⟩ := h
    refine ⟨Value.uniform_of_data hd rfl, ?_⟩
    rw [← Value.asTemporary_inWidth, heq]
  asTemporary := by
    intro v v' h
    obtain ⟨hv, rfl⟩ := h
    exact ⟨Value.uniform_of_data hv rfl, (Value.asTemporary_inWidth w' v).symm⟩
  setParent := by
    intro v v' p p' hv hp
    obtain ⟨hv, rfl⟩ := hv
    obtain ⟨-, rfl⟩ := hp
    rw [Value.extendsLifetime_inWidth]
    split
    · exact ⟨Value.uniform_of_data hv rfl, (Value.setParent_inWidth w' v p).symm⟩
    · exact ⟨hv, rfl⟩
  reading := by
    intro b b' k k' hb hk
    obtain ⟨hb, rfl⟩ := hb
    obtain ⟨-, rfl⟩ := hk
    have hread := (Recast.inWidth w').reading b k
    obtain ⟨h₁, h₂⟩ := Prod.mk.inj hread
    exact ⟨⟨Value.uniform_reading k hb, h₁.symm⟩, h₂.symm⟩
  unary := by
    intro op v v' h
    obtain ⟨-, rfl⟩ := h
    refine ⟨Value.uniform_unary op v, ?_⟩
    exact (Value.inWidth_of w' _).trans (congrArg Value.of ((Recast.inWidth w').unary op v))
  binary := by
    intro op v v' u u' hv hu
    obtain ⟨hv, rfl⟩ := hv
    obtain ⟨hu, rfl⟩ := hu
    refine ⟨Value.uniform_binary op hv hu, (Value.inWidth_of w' _).trans (congrArg Value.of ?_)⟩
    refine (Recast.inWidth w').binary op fun s t hs ht _ => ?_
    rw [(Value.uniform_iff.mp hv).text s hs, (Value.uniform_iff.mp hu).text t ht]
  scratch := by
    intro v v' d d' hv hd
    obtain ⟨-, rfl⟩ := hv
    obtain ⟨hd, heq⟩ := hd
    rw [Value.scratch_eq, Value.scratch_eq, ← heq]
    exact ⟨Value.uniform_of_data hd rfl, (Value.asTemporary_inWidth w' _).symm⟩
  concat := by
    intro v v' u u' hv hu
    obtain ⟨hv, rfl⟩ := hv
    obtain ⟨hu, rfl⟩ := hu
    exact ⟨Value.uniform_concat hv hu, Value.concat_inWidth hv hu⟩
  filter := by
    intro f v v' args args' hf hv hargs
    obtain ⟨hv, rfl⟩ := hv
    refine ⟨Value.uniform_filter f args hv, Value.result_inWidth hf hv ?_⟩
    refine hargs.imp fun a a' ha => ?_
    rcases ha with ⟨-, rfl⟩ | rfl
    · exact (Recast.inWidth w').sameArgument a
    · exact ⟨rfl, rfl, fun _ => rfl⟩
  emptyText := ⟨Text.width_empty w, Text.ext_chars (by simp) (by simp)⟩
  write := by
    intro t t' v v' ht hv
    obtain ⟨ht, rfl⟩ := ht
    obtain ⟨-, rfl⟩ := hv
    refine ⟨?_, ?_⟩
    · rw [Text.write_eq, Text.width_extend]
      exact ht
    · rw [Text.write_eq, Text.write_eq, Value.shown_inWidth]
      exact Text.ext_chars (by simp) (by simp)

end

end TemplateExpr
