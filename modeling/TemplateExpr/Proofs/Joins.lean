/-
Trees of joins.

A tree of joins evaluates its leaves from left to right and puts their texts one behind the
other.  A join writes to the cell of its left operand if that is a scratch result, be it a
leaf or what the joins on the left have made, and shows the value on its right again, be it
a leaf or a text that was joined already.  None of this can be told from the result: what
a tree makes shows what its leaves show, fits the target width as they do, and keeps the
parent that joining onto its first leaf would keep.  These three facts carry the induction
over the tree.
-/
import TemplateExpr.Proofs.Marks.Fresh

namespace TemplateExpr

/-- A tree of joins with any expressions at its leaves. -/
inductive JoinTree where
  | leaf (e : Expr)
  | join (left right : JoinTree)

namespace JoinTree

/-- The expression a tree stands for. -/
def expr : JoinTree → Expr
  | leaf e => e
  | join left right => .binary .concat left.expr right.expr

/-- The leaves from left to right. -/
def leaves : JoinTree → List Expr
  | leaf e => [e]
  | join left right => left.leaves ++ right.leaves

end JoinTree

namespace Value

/-- If the value is a text, it has the given width. -/
def Fits (w : CharWidth) (v : Value) : Prop := ∀ s, v.data = .text s → s.width = w

/-- The parent a value keeps when more text is joined onto it. -/
def keptParent (v : Value) : Option Value := if v.joinsInPlace then v.parent else none

variable {w : CharWidth} {v left right : Value}

theorem Fits.width_toOwnText (h : v.Fits w) : (v.toOwnText w).width = w := by
  unfold toOwnText
  split
  · rename_i t ht
    exact h t ht
  · exact v.width_toText w

theorem concat_of_fits (hleft : left.Fits w) (hright : right.Fits w) :
    left.concat w right =
      ⟨.text (.ofChars ((left.toOwnText w).chars ++ (right.toOwnText w).chars) w), true,
        left.keptParent⟩ := by
  have hwidth : (left.toOwnText w).width = (right.toOwnText w).width :=
    hleft.width_toOwnText.trans hright.width_toOwnText.symm
  have htext : (left.toOwnText w).extend (right.toOwnText w).chars =
      .ofChars ((left.toOwnText w).chars ++ (right.toOwnText w).chars) w :=
    Text.ext_chars (by simp [hleft.width_toOwnText]) (by simp)
  rw [concat_eq, Text.append_eq_extend hwidth, htext]
  rfl

end Value

/-! ### What a tree makes of the values of its leaves

Two trees over one row of leaves differ in which cells they write to and in what they
show along the way.  `StandsFor` keeps what a further join can see of a value, which is
the same for all of them.
-/

/-- What the joins of a tree make of the values of its leaves. -/
inductive JoinTree.Makes (w : CharWidth) : JoinTree → List Value → Value → Prop
  | leaf {e : Expr} {v : Value} : Makes w (leaf e) [v] v
  | join {l r : JoinTree} {us vs : List Value} {left right : Value} (hl : Makes w l us left)
      (hr : Makes w r vs right) : Makes w (join l r) (us ++ vs) (left.concat w right)

/-- A value can stand, as an operand of a join, for values joined one after the other. -/
structure Value.StandsFor (w : CharWidth) (v : Value) (vs : List Value) : Prop where
  fits : v.Fits w
  /-- It shows what they show. -/
  shows : (v.toOwnText w).chars = vs.flatMap fun u => (u.toOwnText w).chars
  /-- It keeps the parent that the first of them would keep. -/
  keeps : ∃ u us, vs = u :: us ∧ v.keptParent = u.keptParent

variable {env : Env} {c c₁ : Context} {w : CharWidth} {v : Value} {vs : List Value}

variable {l r t : JoinTree}

/-- A text joined of what two values stand for stands for both. -/
theorem Value.StandsFor.concat {left right : Value} {us : List Value} (hl : left.StandsFor w us)
    (hr : right.StandsFor w vs) : (left.concat w right).StandsFor w (us ++ vs) := by
  obtain ⟨u, rest, rfl, hkeeps⟩ := hl.keeps
  rw [concat_of_fits hl.fits hr.fits]
  refine ⟨?_, ?_, u, rest ++ vs, rfl, hkeeps⟩
  · rintro s hs
    rw [← Payload.text.inj hs, Text.width_ofChars]
  · rw [List.flatMap_append, ← hl.shows, ← hr.shows]
    exact Text.chars_ofChars _ w

theorem JoinTree.Makes.standsFor (h : Makes w t vs v) (hfits : ∀ u ∈ vs, u.Fits w) :
    v.StandsFor w vs := by
  induction h with
  | @leaf e v =>
      refine ⟨hfits v List.mem_cons_self, ?_, v, [], rfl, rfl⟩
      rw [List.flatMap_cons, List.flatMap_nil, List.append_nil]
  | join hl hr ihl ihr =>
      exact (ihl fun u hu => hfits u (List.mem_append_left _ hu)).concat
        (ihr fun u hu => hfits u (List.mem_append_right _ hu))

/-- A join is a scratch text that shows what the leaves show. -/
theorem JoinTree.Makes.join_eq (h : Makes w (.join l r) vs v) (hfits : ∀ u ∈ vs, u.Fits w) :
    v = ⟨.text (.ofChars (vs.flatMap fun u => (u.toOwnText w).chars) w), true,
      vs.head?.bind Value.keptParent⟩ := by
  obtain _ | ⟨hl, hr⟩ := h
  have hleft := hl.standsFor fun u hu => hfits u (List.mem_append_left _ hu)
  have hright := hr.standsFor fun u hu => hfits u (List.mem_append_right _ hu)
  obtain ⟨u, rest, rfl, hkeeps⟩ := hleft.keeps
  rw [Value.concat_of_fits hleft.fits hright.fits, hleft.shows, hright.shows, hkeeps,
    ← List.flatMap_append]
  rfl

/-! ### Trees evaluate their leaves -/

namespace JoinTree

/-- What a tree evaluates to is made of what its leaves evaluate to, one after the other. -/
theorem evaluatesEach_leaves (h : Evaluates env t.expr c v c₁) :
    ∃ vs, EvaluatesEach env t.leaves c vs c₁ ∧ Makes env.width t vs v := by
  induction t generalizing c v c₁ with
  | leaf e => exact ⟨[v], .cons h .nil, .leaf⟩
  | join l r ihl ihr =>
      obtain ⟨left, c', right, hl, hr, rfl⟩ := evaluates_concat.mp h
      obtain ⟨us, hus, hl⟩ := ihl hl
      obtain ⟨vs, hvs, hr⟩ := ihr hr
      exact ⟨us ++ vs, evaluatesEach_append.mpr ⟨us, vs, c', hus, hvs, rfl⟩, .join hl hr⟩

/-- A tree whose leaves evaluate one after the other evaluates, and does nothing else. -/
theorem evaluates_expr (h : EvaluatesEach env t.leaves c vs c₁) :
    ∃ v, Evaluates env t.expr c v c₁ ∧ Makes env.width t vs v := by
  induction t generalizing c vs c₁ with
  | leaf e =>
      obtain ⟨v, _, c', he, hnil, rfl⟩ := evaluatesEach_cons.mp h
      obtain ⟨rfl, rfl⟩ := evaluatesEach_nil.mp hnil
      exact ⟨v, he, .leaf⟩
  | join l r ihl ihr =>
      obtain ⟨us, vs, c', hus, hvs, rfl⟩ := evaluatesEach_append.mp h
      obtain ⟨left, hl, hleft⟩ := ihl hus
      obtain ⟨right, hr, hright⟩ := ihr hvs
      exact ⟨_, evaluates_concat.mpr ⟨left, c', right, hl, hr, rfl⟩, .join hleft hright⟩

/-- A join of trees by what its leaves evaluate to. -/
theorem evaluates_join
    (hfits : ∀ vs c₁, EvaluatesEach env (l.leaves ++ r.leaves) c vs c₁ →
      ∀ u ∈ vs, u.Fits env.width) :
    Evaluates env (join l r).expr c v c₁ ↔
      ∃ vs, EvaluatesEach env (l.leaves ++ r.leaves) c vs c₁ ∧
        v = ⟨.text (.ofChars (vs.flatMap fun u => (u.toOwnText env.width).chars) env.width), true,
          vs.head?.bind Value.keptParent⟩ := by
  constructor
  · intro h
    obtain ⟨vs, hvs, hmakes⟩ := evaluatesEach_leaves h
    exact ⟨vs, hvs, hmakes.join_eq (hfits vs c₁ hvs)⟩
  · intro h
    obtain ⟨vs, hvs, rfl⟩ := h
    obtain ⟨v, hrun, hmakes⟩ := evaluates_expr (t := join l r) hvs
    rw [← hmakes.join_eq (hfits vs c₁ hvs)]
    exact hrun

end JoinTree

/--
**Trees of joins flatten.**  Where no leaf yields a text of another width, a tree with at
least one join evaluates exactly if its leaves do one after the other, which is all it
does to the context.  It yields a scratch text in the target width that shows what the
leaves show, and so does every other tree over the same leaves.
-/
theorem joins_flatten (env : Env) (c : Context) (l r : JoinTree)
    (hfits : ∀ vs c₁, EvaluatesEach env (l.leaves ++ r.leaves) c vs c₁ → ∀ u ∈ vs, ∀ s,
      u.data = .text s → s.width = env.width) :
    (∀ v c₁, Evaluates env (JoinTree.join l r).expr c v c₁ ↔
      ∃ vs, EvaluatesEach env (l.leaves ++ r.leaves) c vs c₁ ∧
        v = ⟨.text (.ofChars (vs.flatMap fun u => (u.toOwnText env.width).chars) env.width), true,
          vs.head?.bind Value.keptParent⟩) ∧
    ∀ l' r' : JoinTree, l'.leaves ++ r'.leaves = l.leaves ++ r.leaves → ∀ v c₁,
      Evaluates env (JoinTree.join l' r').expr c v c₁ ↔
        Evaluates env (JoinTree.join l r).expr c v c₁ := by
  refine ⟨fun v c₁ => JoinTree.evaluates_join hfits, fun l' r' hleaves v c₁ => ?_⟩
  rw [JoinTree.evaluates_join hfits, JoinTree.evaluates_join (by rw [hleaves]; exact hfits),
    hleaves]

/-- A number, a text and a scratch number, joined from the left and from the right. -/
theorem joins_flatten_shapes :
    let env : Env := ⟨.narrow, .empty⟩
    let a : JoinTree := .leaf (.const (.ofInt 1))
    let b : JoinTree := .leaf (.const (.ofText (.narrow "x")))
    let d : JoinTree := .leaf (.unary .neg (.const (.ofInt 2)))
    (∀ vs c₁, EvaluatesEach env ((a.join b).leaves ++ d.leaves) (.ofGlobals .nil) vs c₁ →
      ∀ u ∈ vs, ∀ s, u.data = .text s → s.width = env.width) ∧
    ∃ v, Evaluates env ((a.join b).join d).expr (.ofGlobals .nil) v (.ofGlobals .nil) ∧
      Evaluates env (a.join (b.join d)).expr (.ofGlobals .nil) v (.ofGlobals .nil) ∧
      v.data = .text (.narrow "1x-2") := by
  intro env a b d
  have hfits : ∀ vs c₁, EvaluatesEach env ((a.join b).leaves ++ d.leaves) (.ofGlobals .nil) vs c₁ →
      ∀ u ∈ vs, ∀ s, u.data = .text s → s.width = env.width := by
    intro vs c₁ hvs u hu s hs
    obtain ⟨one, _, c', hone, hrest, rfl⟩ := evaluatesEach_cons.mp hvs
    obtain ⟨x, _, c'', hx, hrest', rfl⟩ := evaluatesEach_cons.mp hrest
    obtain ⟨two, _, c₂, htwo, hnil, rfl⟩ := evaluatesEach_cons.mp hrest'
    obtain ⟨rfl, rfl⟩ := evaluatesEach_nil.mp hnil
    obtain ⟨rfl, rfl⟩ := evaluates_const.mp hone
    obtain ⟨rfl, rfl⟩ := evaluates_const.mp hx
    obtain ⟨u', hu', rfl⟩ := evaluates_unary.mp htwo
    obtain ⟨rfl, rfl⟩ := evaluates_const.mp hu'
    simp only [List.mem_cons, List.not_mem_nil, or_false] at hu
    rcases hu with rfl | rfl | rfl
    · exact absurd hs nofun
    · rw [← Payload.text.inj hs]
      rfl
    · exact absurd hs nofun
  obtain ⟨-, hshapes⟩ := joins_flatten env (.ofGlobals .nil) (a.join b) d hfits
  have hrun : ∃ v, Evaluates env ((a.join b).join d).expr (.ofGlobals .nil) v (.ofGlobals .nil) ∧
      v.data = .text (.narrow "1x-2") := ⟨_, ⟨3, rfl⟩, rfl⟩
  obtain ⟨v, hv, hdata⟩ := hrun
  exact ⟨hfits, v, hv, (hshapes a (b.join d) rfl v _).mpr hv, hdata⟩

end TemplateExpr
