/-
When one computation answers like another.

`Simulates S R m m'` says: started in contexts that `S` relates, whenever `m` answers,
`m'` answers too, with results that `R` relates and contexts that `S` relates again.
It says nothing where `m` runs out of depth, so a computation simulates the same one
with more depth; where the relations are symmetric, two computations simulate each
other and run out together.

The relation is closed under sequencing and under the ways lists are gone through,
which is all that evaluation is put together from.
-/
import Mathlib.Data.List.Forall2
import TemplateExpr.Context

namespace TemplateExpr.EvalM

variable {α β γ δ : Type} {S : Context → Context → Prop}

/-! ### Answers -/

theorem bind_eq_some_iff {m : EvalM α} {f : α → EvalM β} {c : Context} {r : β × Context} :
    (m >>= f) c = some r ↔ ∃ a c₁, m c = some (a, c₁) ∧ f a c₁ = some r := by
  constructor
  · intro h
    obtain ⟨⟨a, c₁⟩, hm, hf⟩ := Option.bind_eq_some_iff.mp h
    exact ⟨a, c₁, hm, hf⟩
  · intro h
    obtain ⟨a, c₁, hm, hf⟩ := h
    exact Option.bind_eq_some_iff.mpr ⟨(a, c₁), hm, hf⟩

/-- What follows an answer goes on from it. -/
theorem bind_run {m : EvalM α} {f : α → EvalM β} {c c' : Context} {a : α} (h : m c = some (a, c')) :
    (m >>= f) c = f a c' := by
  show (m c).bind (fun r => f r.1 r.2) = f a c'
  rw [h]
  rfl

theorem map_eq_some_iff {m : EvalM α} {f : α → β} {c c₁ : Context} {b : β} :
    (f <$> m) c = some (b, c₁) ↔ ∃ a, m c = some (a, c₁) ∧ f a = b := by
  rw [map_eq_pure_bind, bind_eq_some_iff]
  constructor
  · intro h
    obtain ⟨a, c₁, hm, hf⟩ := h
    obtain ⟨rfl, rfl⟩ := Prod.mk.inj (Option.some.inj hf)
    exact ⟨a, hm, rfl⟩
  · intro h
    obtain ⟨a, hm, rfl⟩ := h
    exact ⟨a, c₁, hm, rfl⟩

/-! ### Answering alike

A simulation goes in one direction: it speaks of the answers of the first computation.
In both directions it gives more, `rel`: then either both answer, alike, or neither
does.
-/

/-- Whatever `m` answers, `m'` answers alike. -/
def Simulates (S : Context → Context → Prop) (R : α → β → Prop) (m : EvalM α) (m' : EvalM β) :
    Prop :=
  ∀ c c', S c c' → ∀ a c₁, m c = some (a, c₁) →
    ∃ a' c₁', m' c' = some (a', c₁') ∧ R a a' ∧ S c₁ c₁'

namespace Simulates

theorem pure {R : α → β → Prop} {a : α} {a' : β} (h : R a a') :
    Simulates S R (Pure.pure a) (Pure.pure a') := by
  intro c c' hc b c₁ hrun
  obtain ⟨rfl, rfl⟩ := Prod.mk.inj (Option.some.inj hrun)
  exact ⟨a', c', rfl, h, hc⟩

theorem mono {R Q : α → β → Prop} {m : EvalM α} {m' : EvalM β} (h : Simulates S R m m')
    (hRQ : ∀ a b, R a b → Q a b) : Simulates S Q m m' := by
  intro c c' hc a c₁ hrun
  obtain ⟨a', c₁', hrun', ha, hc₁⟩ := h c c' hc a c₁ hrun
  exact ⟨a', c₁', hrun', hRQ a a' ha, hc₁⟩

theorem outOfDepth {R : α → β → Prop} (m' : EvalM β) : Simulates S R EvalM.outOfDepth m' := by
  intro c c' _ a c₁ hrun
  exact absurd hrun (by simp [EvalM.outOfDepth])

theorem bind {R : α → β → Prop} {Q : γ → δ → Prop} {m : EvalM α} {m' : EvalM β}
    {f : α → EvalM γ} {f' : β → EvalM δ} (hm : Simulates S R m m')
    (hf : ∀ a a', R a a' → Simulates S Q (f a) (f' a')) : Simulates S Q (m >>= f) (m' >>= f') := by
  intro c c' hc b c₂ hrun
  obtain ⟨a, c₁, hmrun, hfrun⟩ := bind_eq_some_iff.mp hrun
  obtain ⟨a', c₁', hmrun', ha, hc₁⟩ := hm c c' hc a c₁ hmrun
  obtain ⟨b', c₂', hfrun', hb, hc₂⟩ := hf a a' ha c₁ c₁' hc₁ b c₂ hfrun
  exact ⟨b', c₂', bind_eq_some_iff.mpr ⟨a', c₁', hmrun', hfrun'⟩, hb, hc₂⟩

/-- One computation after the other, where the second one does not look at the first result. -/
theorem seq {R : α → β → Prop} {Q : γ → δ → Prop} {m : EvalM α} {m' : EvalM β} {k : EvalM γ}
    {k' : EvalM δ} (hm : Simulates S R m m') (hk : Simulates S Q k k') :
    Simulates S Q (m >>= fun _ => k) (m' >>= fun _ => k') :=
  hm.bind fun _ _ _ => hk

/-- Computations that simulate each other answer alike or run out together. -/
theorem rel {S' : Context → Context → Prop} {R : α → β → Prop} {R' : β → α → Prop} {m : EvalM α}
    {m' : EvalM β} (h : Simulates S R m m') (h' : Simulates S' R' m' m) {c c' : Context}
    (hc : S c c') (hc' : S' c' c) :
    Option.Rel (fun r r' => R r.1 r'.1 ∧ S r.2 r'.2) (m c) (m' c') := by
  cases hm : m c with
  | some r =>
      obtain ⟨a', c₁', hm', ha, hc₁⟩ := h c c' hc r.1 r.2 hm
      rw [hm']
      exact .some ⟨ha, hc₁⟩
  | none =>
      cases hm' : m' c' with
      | none => exact .none
      | some r' =>
          obtain ⟨a, c₁, hm₁, -⟩ := h' c' c hc' r'.1 r'.2 hm'
          exact absurd (hm.symm.trans hm₁) (by simp)

/-! ### Going through lists

Where two lists are related element by element and each step is simulated, so is the
pass over the list.  The order of the elements is the order of the effects.
-/

theorem mapM {R : α → β → Prop} {Q : γ → δ → Prop} {f : α → EvalM γ} {f' : β → EvalM δ}
    (hf : ∀ a a', R a a' → Simulates S Q (f a) (f' a')) {l : List α} {l' : List β}
    (hl : List.Forall₂ R l l') : Simulates S (List.Forall₂ Q) (l.mapM f) (l'.mapM f') := by
  induction hl with
  | nil => exact pure List.Forall₂.nil
  | cons ha _ ih =>
      rw [List.mapM_cons, List.mapM_cons]
      refine bind (hf _ _ ha) fun b b' hb => ?_
      refine bind ih fun bs bs' hbs => ?_
      exact pure (List.Forall₂.cons hb hbs)

theorem foldlM {R : α → β → Prop} {Q : γ → δ → Prop} {f : γ → α → EvalM γ} {f' : δ → β → EvalM δ}
    (hf : ∀ b b' a a', Q b b' → R a a' → Simulates S Q (f b a) (f' b' a')) {l : List α}
    {l' : List β} (hl : List.Forall₂ R l l') {b : γ} {b' : δ} (hb : Q b b') :
    Simulates S Q (l.foldlM f b) (l'.foldlM f' b') := by
  induction hl generalizing b b' with
  | nil => exact pure hb
  | cons ha _ ih =>
      rw [List.foldlM_cons, List.foldlM_cons]
      exact bind (hf _ _ _ _ hb ha) fun b₁ b₁' hb₁ => ih hb₁

theorem forM {R : α → β → Prop} {f : α → EvalM PUnit} {f' : β → EvalM PUnit}
    (hf : ∀ a a', R a a' → Simulates S (fun _ _ => True) (f a) (f' a')) {l : List α} {l' : List β}
    (hl : List.Forall₂ R l l') : Simulates S (fun _ _ => True) (l.forM f) (l'.forM f') := by
  induction hl with
  | nil => exact pure trivial
  | cons ha _ ih =>
      exact seq (hf _ _ ha) ih

end Simulates

end TemplateExpr.EvalM
