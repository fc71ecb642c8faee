/-
Three searches for one pattern.

The membership operator asks whether a pattern occurs in a text, a replacement with a count
searches for its first occurrence, and a replacement of all goes through the text once.
They find the same thing whatever the widths of the texts: the pattern is found exactly if
the text can be split around it, and what is replaced first stands behind the shortest part
it can be split off with.
-/
import TemplateExpr.Proofs.Chains
import TemplateExpr.Proofs.Equality.Congruence
import TemplateExpr.Proofs.Search.Counted

namespace TemplateExpr

/-- The text with `new` put in the place of `old`, as often as the count says. -/
def Text.replaced (t old new : Text) (count : Int64) : Text :=
  t.mapChars (Search.replace old.chars new.chars count)

variable {env : Env} {c c' c₁ : Context} {t old new : Text}

theorem Value.argChars_of_text {v : Value} (h : v.data = .text t) : v.argChars = t.chars := by
  unfold argChars asText?
  rw [h]

theorem Value.toOwnText_of_text {v : Value} (h : v.data = .text t) (w : CharWidth) :
    v.toOwnText w = t := by
  unfold toOwnText
  rw [h]

/-! ### What is searched for and where -/

/-- Of two texts, membership is whether the one can be split around the other. -/
theorem Value.memberOf_texts {v seq : Value} (hv : v.data = .text old) (hseq : seq.data = .text t) :
    v.memberOf seq = true ↔ ∃ before after, t.chars = before ++ old.chars ++ after := by
  have hsearch : v.memberOf seq = Search.occurs old.chars t.chars := by
    unfold memberOf asText?
    rw [hseq, hv]
    rfl
  rw [hsearch, Search.occurs_iff]
  exact exists_congr fun before => exists_congr fun after => eq_comm

/-- A replacement yields the text with its arguments' texts replaced. -/
theorem evaluates_replaced {base : Expr} {link : FilterLink Expr} {u vold vnew vcount : Value}
    (hlink : link.filter = .replace) (hbase : Evaluates env base c u c') (hu : u.data = .text t)
    (hargs : EvaluatesEach env link.operands c' [vold, vnew, vcount] c₁)
    (hold : vold.data = .text old) (hnew : vnew.data = .text new) :
    Evaluates env (.filtered base [link]) c
      (Value.ofText (t.replaced old new (vcount.toInt 0))).asTemporary
      (c₁.keep (.text (t.replaced old new (vcount.toInt 0)))) := by
  have hproduct : link.product env u [vold, vnew, vcount] =
      .text (t.replaced old new (vcount.toInt 0)) := by
    rw [FilterLink.product, hlink, Value.toOwnText_of_text hu]
    unfold Filter.result Text.replaced
    dsimp only
    rw [Value.argChars_of_text hold, Value.argChars_of_text hnew]
  refine evaluates_filtered.mpr ⟨u, c', hbase, appliesEach_cons.mpr ⟨_, _, hargs, ?_⟩⟩
  rw [hproduct]
  exact .nil

/-! ### What is replaced -/

namespace Search

variable {pat sub cs before after : List Char}

theorem replace_one (hpat : pat ≠ []) (h : splitFirst pat cs = some (before, after)) :
    replace pat sub 1 cs = before ++ sub ++ after := by
  rw [replace_of_pos hpat sub cs (by decide), show (1 : Int64).toInt.toNat = 1 from rfl,
    replaceFirst, h]
  rfl

/-- Replacing all replaces the first occurrence and all behind it. -/
theorem replace_zero_of_some (hpat : pat ≠ []) (h : splitFirst pat cs = some (before, after)) :
    replace pat sub 0 cs = before ++ sub ++ replace pat sub 0 after := by
  rw [replace_zero hpat, replace_zero hpat, replaceAll_of_some hpat h]

end Search

/--
**The three searches find the same occurrence.**  Membership holds exactly if the text can be
split around the pattern.  If it cannot, a replacement keeps the text, whatever the count.
If it can, the shortest part before the pattern is what a replacement keeps in front of the
first thing it puts in, and a replacement of all goes on in the same way behind the pattern.
-/
theorem substring_searches_agree (env : Env) (t old new : Text) (hold : old.chars ≠ []) :
    let occurs := ∃ before after, t.chars = before ++ old.chars ++ after
    (∀ l r c left c' right c₁, Evaluates env l c left c' → left.data = .text old →
      Evaluates env r c' right c₁ → right.data = .text t →
      ∃ found : Bool, Evaluates env (.binary .mem l r) c (Value.ofBool found).asTemporary c₁ ∧
        (found = true ↔ occurs)) ∧
    (∀ base link c u c' vold vnew vcount c₁, link.filter = .replace →
      Evaluates env base c u c' → u.data = .text t →
      EvaluatesEach env link.operands c' [vold, vnew, vcount] c₁ →
      vold.data = .text old → vnew.data = .text new →
      Evaluates env (.filtered base [link]) c
        (Value.ofText (t.replaced old new (vcount.toInt 0))).asTemporary
        (c₁.keep (.text (t.replaced old new (vcount.toInt 0))))) ∧
    (¬occurs → ∀ count, t.replaced old new count = t) ∧
    (occurs → ∃ before after, t.chars = before ++ old.chars ++ after ∧
      (∀ b a, t.chars = b ++ old.chars ++ a → before.length ≤ b.length) ∧
      t.replaced old new 1 = .ofChars (before ++ new.chars ++ after) t.width ∧
      t.replaced old new 0 = .ofChars (before ++ new.chars ++
        ((Text.ofChars after t.width).replaced old new 0).chars) t.width) := by
  intro occurs
  have hiff : old.chars <:+: t.chars ↔ occurs :=
    exists_congr fun before => exists_congr fun after => eq_comm
  refine ⟨?_, ?_, ?_, ?_⟩
  · intro l r c left c' right c₁ hl hleft hr hright
    refine ⟨left.memberOf right, Tester.evaluates_mem.mpr ⟨left, c', right, hl, hr, rfl⟩, ?_⟩
    exact Value.memberOf_texts hleft hright
  · intro base link c u c' vold vnew vcount c₁ hlink hbase hu hargs hvold hvnew
    exact evaluates_replaced hlink hbase hu hargs hvold hvnew
  · intro hnone count
    refine Text.ext_chars (Text.width_mapChars _ t) ?_
    rw [Text.replaced, Text.chars_mapChars]
    exact Search.replace_of_not_infix (fun h => hnone (hiff.mp h)) new.chars count
  · intro hoccurs
    obtain ⟨⟨before, after⟩, hsplit⟩ := Option.ne_none_iff_exists'.mp
      (mt Search.splitFirst_eq_none_iff.mp (not_not.mpr (hiff.mpr hoccurs)))
    obtain ⟨hcs, hshortest⟩ := Search.splitFirst_eq_some_iff.mp hsplit
    refine ⟨before, after, hcs, hshortest, ?_, ?_⟩
    · refine Text.ext_chars (by simp [Text.replaced]) ?_
      rw [Text.replaced, Text.chars_mapChars, Text.chars_ofChars, Search.replace_one hold hsplit]
    · refine Text.ext_chars (by simp [Text.replaced]) ?_
      simp only [Text.replaced, Text.chars_mapChars, Text.chars_ofChars]
      exact Search.replace_zero_of_some hold hsplit

/-- A narrow pattern that is almost met one character before it is, in a wide text. -/
theorem substring_searches_agree_overlapping :
    let env : Env := ⟨.narrow, .empty⟩
    let t : Text := .wide ['a', 'a', 'a', 'b', 'a', 'a']
    let old : Text := .narrow "aab"
    old.chars ≠ [] ∧
      (∃ v, Evaluates env (.binary .mem (.const (.ofText old)) (.const (.ofText t)))
        (.ofGlobals .nil) v (.ofGlobals .nil) ∧ v.data = .bool true) ∧
      t.replaced old (.narrow "-") 1 = .wide ['a', '-', 'a', 'a'] := by
  intro env t old
  have hchars : old.chars = ['a', 'a', 'b'] := by decide
  have hold : old.chars ≠ [] := by rw [hchars]; exact List.cons_ne_nil _ _
  have hoccurs : ∃ before after, t.chars = before ++ old.chars ++ after :=
    ⟨['a'], ['a', 'a'], by rw [hchars]; rfl⟩
  have hconst : ∀ s, Evaluates env (.const (.ofText s)) (.ofGlobals .nil) (.ofText s)
      (.ofGlobals .nil) := fun s => evaluates_const.mpr ⟨rfl, rfl⟩
  obtain ⟨hmember, -, -, hfirst⟩ := substring_searches_agree env t old (.narrow "-") hold
  refine ⟨hold, ?_, ?_⟩
  · obtain ⟨found, hrun, hfound⟩ := hmember _ _ _ _ _ _ _ (hconst old) rfl (hconst t) rfl
    exact ⟨_, hrun, by rw [hfound.mpr hoccurs]; rfl⟩
  · obtain ⟨before, after, hcs, hshortest, hone, -⟩ := hfirst hoccurs
    rw [hchars] at hcs hshortest
    -- Nothing is split off before the second character, so exactly one character is.
    have hle : before.length ≤ 1 := hshortest ['a'] ['a', 'a'] rfl
    obtain _ | ⟨x, _ | ⟨y, rest⟩⟩ := before
    · exact absurd hcs (by simp [t, Text.chars])
    · obtain ⟨rfl, rfl⟩ : 'a' = x ∧ ['a', 'a'] = after := by simpa [t, Text.chars] using hcs
      exact hone
    · simp at hle

end TemplateExpr
