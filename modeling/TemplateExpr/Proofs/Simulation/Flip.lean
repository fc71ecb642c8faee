/-
Likenesses read the other way round.

A likeness that is kept says that one run follows another.  To know that the two run out
of depth together, the second one has to follow the first one as well.  Every function
of values that keeps a likeness keeps it read from right to left, so this costs nothing.
-/
import TemplateExpr.Proofs.Simulation.Equivalence
import TemplateExpr.Proofs.Simulation.Eval

namespace TemplateExpr

/-- The likeness that relates what `L` relates, the other way round. -/
def Likeness.flip (L : Likeness) : Likeness :=
  ⟨fun v v' => L.value v' v, fun t t' => L.text t' t, L.allows⟩

variable {L : Likeness} {w w' : CharWidth}

theorem Likeness.Keeps.flip (hL : L.Keeps w w') : L.flip.Keeps w' w where
  slot := fun h => (hL.slot h).symm
  isEmpty := fun h => (hL.isEmpty h).symm
  truthy := fun h => (hL.truthy h).symm
  toInt := fun h default => (hL.toInt h default).symm
  asBuiltin? := fun h => (hL.asBuiltin? h).symm
  asFunction? := fun h => (hL.asFunction? h).symm
  asMap? := fun h =>
    rel_symm (hL.asMap? h) fun _ _ _ hm key => rel_symm (hm key) fun _ _ _ hv => hv
  memberOf := fun hv hs => (hL.memberOf hv hs).symm
  empty := hL.empty
  bool := hL.bool
  ofText := hL.ofText
  list := fun h => hL.list (forall₂_symm h fun _ _ _ hv => hv)
  map := fun h => hL.map (Dict.Alike.symm h fun _ _ _ hv => hv)
  progression := hL.progression
  made := hL.made
  unary := fun op _ _ h => hL.unary op h
  binary := fun op _ _ _ _ hv hu => hL.binary op hv hu
  scratch := hL.scratch
  concat := hL.concat
  filter := fun hf hv hargs =>
    hL.filter hf hv (forall₂_symm hargs fun _ _ _ ha => ha.imp id Eq.symm)
  emptyText := hL.emptyText
  write := hL.write

theorem Likeness.Respects.flip (hL : L.Respects w w') : L.flip.Respects w' w where
  toKeeps := hL.toKeeps.flip
  asTemporary := hL.asTemporary
  reading := fun hb hk => ⟨(hL.reading hb hk).1, (hL.reading hb hk).2.symm⟩
  setParent := hL.setParent

private theorem flip_value {v v' : Value} (h : L.value v v') : L.flip.value v' v := h

private theorem flip_allows (f : Filter) (h : L.allows f) : L.flip.allows f := h

theorem Expr.Alike.flip {e e' : Expr} (h : Expr.Alike L e e') : Expr.Alike L.flip e' e :=
  h.converse flip_value flip_allows

theorem Library.Alike.flip {l l' : Library} (h : Library.Alike L l l') :
    Library.Alike L.flip l' l :=
  h.converse flip_value flip_allows

theorem Scopes.Alike.flip {s s' : Scopes} (h : Scopes.Alike L s s') : Scopes.Alike L.flip s' s :=
  h.converse flip_value

/-- **Alike runs answer alike or run out of depth together.** -/
theorem runs_agree {env env' : Env} (hL : L.Respects env.width env'.width)
    (hlib : Library.Alike L env.library env'.library) {e e' : Expr} (he : Expr.Alike L e e')
    {c c' : Context} (hc : Scopes.Alike L c.scopes c'.scopes) (depth : Nat) :
    Option.Rel (fun r r' => L.value r.1 r'.1 ∧ Context.Alike L c c' r.2 r'.2)
      (evalTo env depth e c) (evalTo env' depth e' c') := by
  have hruns := runs_follow hL hlib c c' (Nat.le_refl depth)
  have hruns' := runs_follow hL.flip hlib.flip c' c (Nat.le_refl depth)
  exact EvalM.Simulates.rel (hruns.eval e e' he) (hruns'.eval e' e he.flip)
    (Context.Alike.start hc) (Context.Alike.start hc.flip)

end TemplateExpr
