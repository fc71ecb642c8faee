/-
Expressions over values with a property.

The likeness `only` relates a value with a property to itself and to nothing else.  So
an expression is alike itself for it when all its constants have the property, and so
are libraries and scopes when all their values do.  Where this likeness is kept by
evaluation, the property is.
-/
import TemplateExpr.Proofs.Depth

namespace TemplateExpr

/-- Values with a property correspond to themselves, and some filters are allowed. -/
def Likeness.only (p : Value → Bool) (allows : Filter → Prop) : Likeness :=
  ⟨fun v v' => v = v' ∧ p v = true, Eq, allows⟩

variable {p : Value → Bool} {allows : Filter → Prop}

/-- Every constant of an expression satisfies `p`, and every filter is allowed. -/
abbrev Expr.Over (p : Value → Bool) (allows : Filter → Prop) (e : Expr) : Prop :=
  Expr.Alike (.only p allows) e e

/-- Every value in a library, defaults included, satisfies `p`, and every filter is allowed. -/
abbrev Library.Over (p : Value → Bool) (allows : Filter → Prop) (l : Library) : Prop :=
  Library.Alike (.only p allows) l l

/-- Every value in a scope chain satisfies `p`. -/
abbrev Scopes.Over (p : Value → Bool) (s : Scopes) : Prop :=
  Scopes.Alike (.only p fun _ => True) s s

/-! ### Lists of values with a property -/

theorem eq_of_forall₂_only {vs vs' : List Value}
    (h : List.Forall₂ (Likeness.only p allows).value vs vs') :
    vs = vs' ∧ ∀ u ∈ vs, p u = true := by
  induction h with
  | nil => exact ⟨rfl, fun u hu => absurd hu List.not_mem_nil⟩
  | cons hv _ ih =>
      obtain ⟨rfl, hp⟩ := hv
      obtain ⟨rfl, hall⟩ := ih
      exact ⟨rfl, fun u hu => (List.mem_cons.mp hu).elim (fun h => h ▸ hp) (hall u)⟩

theorem eq_of_alike_only {es es' : Dict Value}
    (h : Dict.Alike (Likeness.only p allows).value es es') :
    es = es' ∧ ∀ u ∈ es.values, p u = true :=
  ⟨Dict.Alike.eq h fun _ _ _ hv => hv.1, (eq_of_forall₂_only (Dict.values_alike h)).2⟩

/-! ### Weaker likenesses -/

section

variable {L L' : Likeness} (h : ∀ v v', L.value v v' → L'.value v v')

include h

theorem Dict.Alike.mono {bound : Option String} {d d' : Dict Value bound}
    (hd : Dict.Alike L.value d d') : Dict.Alike L'.value d d' := by
  induction hd with
  | nil => exact .nil
  | cons hv _ ih => exact .cons (h _ _ hv) ih

theorem Scopes.Alike.mono {s s' : Scopes} (hs : Scopes.Alike L s s') : Scopes.Alike L' s s' :=
  ⟨Dict.Alike.mono h hs.globals, hs.frames.imp fun _ _ hd => Dict.Alike.mono h hd⟩

/-- Contexts that grew alike grew alike in a weaker sense too. -/
theorem Context.Alike.mono {b b' c c' : Context} (hc : Context.Alike L b b' c c') :
    Context.Alike L' b b' c c' := by
  obtain ⟨new, new', hpool, hpool', hnew⟩ := hc.pool
  refine ⟨Scopes.Alike.mono h hc.scopes, hc.calls, new, new', hpool, hpool', ?_⟩
  exact hnew.imp fun _ _ hs => h _ _ hs

end

/-- Contexts that grew alike from one context, with equal values, are the same. -/
theorem Context.eq_of_only {b c c' : Context} (h : Context.Alike (.only p allows) b b c c') :
    c = c' := by
  have hsame : ∀ v v', (Likeness.only p allows).value v v' → Likeness.same.value v v' :=
    fun _ _ hv => hv.1
  exact Context.eq_of_alike (h.mono hsame)

end TemplateExpr
