/-
Evaluation keeps likenesses.

Alike expressions, evaluated in alike contexts with alike libraries, give corresponding
values and leave alike contexts: the same functions are called in the same order and
the pools grow by as many slots.  Rendering gives corresponding texts in the same way.
The second run may be given more depth than the first one.

There is one lemma for each function of the evaluator.  Each of them follows the
function line by line, and the last one is the induction on depth.

Proofs about pairs of runs use the two ends of this module only, `evalStep_follows` for
one level of an expression and `runs_follow` for whole runs.  Which likeness it is does
not matter here; that it is kept is all that is asked.
-/
import TemplateExpr.Proofs.Simulation.Equivalence
import TemplateExpr.Proofs.Simulation.Respects
import TemplateExpr.Proofs.Simulation.Run

namespace TemplateExpr

open EvalM (Simulates)

/-- Whatever `m` answers in a context, `m'` answers alike in an alike one. -/
abbrev EvalM.Follows (L : Likeness) (b b' : Context) {α β : Type} (R : α → β → Prop) (m : EvalM α)
    (m' : EvalM β) : Prop :=
  Simulates (Context.Alike L b b') R m m'

/-- Two evaluators of which the second one follows the first one. -/
structure Evaluator.Alike (L : Likeness) (b b' : Context) (sub sub' : Evaluator) : Prop where
  eval : ∀ e e', Expr.Alike L e e' → EvalM.Follows L b b' L.value (sub.eval e) (sub'.eval e')
  render : ∀ {e e' t t'}, Expr.Alike L e e' → L.text t t' →
    EvalM.Follows L b b' L.text (sub.render e t) (sub'.render e' t')

variable {L : Likeness} {b b' : Context} {w w' : CharWidth} {sub sub' : Evaluator}

/-! ### What touches the context

Only these operations see the context.  Each of them leaves alike contexts alike; the
rest of the evaluator is put together from them, so it never has to be opened again.
-/

namespace EvalM

theorem create_follows (hL : L.Keeps w w') {d d' : Payload Value} (h : L.value (.of d) (.of d')) :
    Follows L b b' L.value (create d) (create d') := by
  intro c c' hc v c₁ hrun
  obtain ⟨rfl, rfl⟩ := Prod.mk.inj (Option.some.inj hrun)
  exact ⟨.of d', _, rfl, h, hc.scopes, hc.calls, hc.pool.keep (hL.slot h) h⟩

/-- What follows the making of a value knows which payload it has. -/
theorem create_bind_follows (hL : L.Keeps w w') {α β : Type} {R : α → β → Prop}
    {d d' : Payload Value} (h : L.value (.of d) (.of d')) {f : Value → EvalM α}
    {f' : Value → EvalM β} (hf : Follows L b b' R (f (.of d)) (f' (.of d'))) :
    Follows L b b' R (create d >>= f) (create d' >>= f') := by
  show Follows L b b' R (create d >>= fun _ => f (.of d)) (create d' >>= fun _ => f' (.of d'))
  exact Simulates.seq (create_follows hL h) hf

theorem lookup_follows (name : String) :
    Follows L b b' (Option.Rel L.value) (lookup name) (lookup name) := by
  intro c c' hc v c₁ hrun
  obtain ⟨rfl, rfl⟩ := Prod.mk.inj (Option.some.inj hrun)
  exact ⟨_, c', rfl, hc.scopes.find? name, hc⟩

theorem define_follows (name : String) {v v' : Value} (hv : L.value v v') :
    Follows L b b' (fun _ _ => True) (define name v) (define name v') := by
  intro c c' hc u c₁ hrun
  obtain ⟨-, rfl⟩ := Prod.mk.inj (Option.some.inj hrun)
  exact ⟨(), _, rfl, trivial, hc.scopes.define name hv, hc.calls, hc.pool⟩

theorem pushScope_follows : Follows L b b' (fun _ _ => True) pushScope pushScope := by
  intro c c' hc u c₁ hrun
  obtain ⟨-, rfl⟩ := Prod.mk.inj (Option.some.inj hrun)
  exact ⟨(), _, rfl, trivial, hc.scopes.push, hc.calls, hc.pool⟩

theorem popScope_follows : Follows L b b' (fun _ _ => True) popScope popScope := by
  intro c c' hc u c₁ hrun
  obtain ⟨-, rfl⟩ := Prod.mk.inj (Option.some.inj hrun)
  exact ⟨(), _, rfl, trivial, hc.scopes.pop, hc.calls, hc.pool⟩

theorem note_follows (line : String) :
    Follows L b b' (fun _ _ => True) (note line) (note line) := by
  intro c c' hc u c₁ hrun
  obtain ⟨-, rfl⟩ := Prod.mk.inj (Option.some.inj hrun)
  obtain ⟨lines, hlines, hlines'⟩ := hc.calls
  refine ⟨(), _, rfl, trivial, hc.scopes, ⟨lines.push line, ?_, ?_⟩, hc.pool⟩
  · show c.calls.push line = _
    rw [hlines, Array.push_append]
  · show c'.calls.push line = _
    rw [hlines', Array.push_append]

end EvalM

open EvalM (Follows)

/-! ### Arguments -/

section

/-! The defaults may be alike in a weaker way, `M`, than the values of expressions. -/

variable {M : Likeness} (hM : ∀ v v', L.value v v' → M.value v v')

include hM

theorem Bound.value_follows_weakly (hsub : Evaluator.Alike L b b' sub sub') (x x' : Bound Expr)
    (hx : Bound.Alike M (Expr.Alike L) x x') :
    Follows L b b' M.value (x.value sub) (x'.value sub') := by
  cases hx with
  | given he => exact (hsub.eval _ _ he).mono hM
  | fallback hv => exact Simulates.pure hv

theorem Binding.value_follows_weakly (hempty : L.value .empty .empty)
    (hsub : Evaluator.Alike L b b' sub sub') {bd bd' : Binding Expr}
    (hbd : Binding.Alike M (Expr.Alike L) bd bd') (name : String) :
    Follows L b b' M.value (bd.value sub name) (bd'.value sub' name) := by
  unfold Binding.value
  rcases eq_or_exists_of_rel (Dict.get?_alike hbd.args name) with ⟨hn, hn'⟩ | ⟨x, x', hx, hx', hrel⟩
  · rw [hn, hn']
    exact Simulates.pure (hM _ _ hempty)
  · rw [hx, hx']
    exact Bound.value_follows_weakly hM hsub x x' hrel

end

theorem Bound.value_follows (hsub : Evaluator.Alike L b b' sub sub') (x x' : Bound Expr)
    (hx : Bound.Alike L (Expr.Alike L) x x') :
    Follows L b b' L.value (x.value sub) (x'.value sub') :=
  Bound.value_follows_weakly (fun _ _ hv => hv) hsub x x' hx

theorem Binding.value_follows (hL : L.Keeps w w') (hsub : Evaluator.Alike L b b' sub sub')
    {bd bd' : Binding Expr} (hbd : Binding.Alike L (Expr.Alike L) bd bd') (name : String) :
    Follows L b b' L.value (bd.value sub name) (bd'.value sub' name) :=
  Binding.value_follows_weakly (fun _ _ hv => hv) hL.empty hsub hbd name

theorem evalEntries_follows {ε ε' : Type} {R : ε → ε' → Prop} {f : ε → EvalM Value}
    {f' : ε' → EvalM Value} (hf : ∀ e e', R e e' → Follows L b b' L.value (f e) (f' e'))
    {es : List (String × ε)} {es' : List (String × ε')} (hes : Entries.Alike R es es') :
    Follows L b b' (Entries.Alike L.value) (evalEntries f es) (evalEntries f' es') := by
  refine Simulates.mapM ?_ hes
  intro x x' hx
  obtain ⟨key, he⟩ := hx
  exact Simulates.bind (hf _ _ he) fun v v' hv => Simulates.pure ⟨key, hv⟩

/-! ### Testers and operators -/

/-- Parameters without defaults are alike themselves. -/
theorem Formal.Alike.ofNone (name : String) (mandatory : Bool) :
    Formal.Alike L ⟨name, mandatory, none⟩ ⟨name, mandatory, none⟩ :=
  ⟨rfl, rfl, .none⟩

theorem Tester.formals_alike (t : Tester) : List.Forall₂ (Formal.Alike L) t.formals t.formals := by
  cases t with
  | mem => exact .cons (.ofNone _ _) .nil
  | defined => exact .nil
  | undefined => exact .nil

theorem Tester.apply_follows (hL : L.Keeps w w') (hsub : Evaluator.Alike L b b' sub sub')
    (t : Tester) {args args' : CallArgs Expr} (hargs : CallArgs.Alike (Expr.Alike L) args args')
    {v v' : Value} (hv : L.value v v') :
    Follows L b b' Eq (t.apply sub args v) (t.apply sub' args' v') := by
  cases t with
  | mem =>
      have hbd := bind_alike (fun _ _ => hL.isEmpty) (Tester.formals_alike .mem) hargs
      refine Simulates.bind (Binding.value_follows hL hsub hbd "seq") fun s s' hs => ?_
      exact Simulates.pure (hL.memberOf hv hs)
  | defined => exact Simulates.pure (by rw [hL.isEmpty hv])
  | undefined => exact Simulates.pure (hL.isEmpty hv)

theorem evalTruth_follows (hL : L.Keeps w w') (hsub : Evaluator.Alike L b b' sub sub')
    {e e' : Expr} (he : Expr.Alike L e e') :
    Follows L b b' Eq (evalTruth sub e) (evalTruth sub' e') :=
  Simulates.bind (hsub.eval _ _ he) fun _ _ hv => Simulates.pure (hL.truthy hv)

theorem CallArgs.Alike.named {ε ε' : Type} {R : ε → ε' → Prop} (name : String) {e : ε} {e' : ε'}
    (he : R e e') : CallArgs.Alike R (.named name e) (.named name e') :=
  ⟨.nil, .cons he .nil⟩

theorem evalBinary_follows {env env' : Env} (hL : L.Keeps env.width env'.width)
    (hsub : Evaluator.Alike L b b' sub sub') (op : BinaryOp) {l l' r r' : Expr}
    (hl : Expr.Alike L l l') (hr : Expr.Alike L r r') :
    Follows L b b' L.value (evalBinary env sub op l r) (evalBinary env' sub' op l' r') := by
  refine Simulates.bind (hsub.eval _ _ hl) fun left left' hleft => ?_
  have hbool : ∀ x x' : Bool, x = x' →
      Follows L b b' L.value (pure (left.scratch (.bool x))) (pure (left'.scratch (.bool x'))) := by
    intro x x' hx
    subst hx
    exact Simulates.pure (hL.scratch hleft (hL.bool x))
  have harith : ∀ op : BinaryOp, Follows L b b' L.value
      (do
        let right ← sub.eval r
        let result ← EvalM.create (op.apply left right)
        pure (left.scratch result.data))
      (do
        let right ← sub'.eval r'
        let result ← EvalM.create (op.apply left' right)
        pure (left'.scratch result.data)) := by
    intro op
    refine Simulates.bind (hsub.eval _ _ hr) fun right right' hright => ?_
    have hresult := hL.binary op hleft hright
    exact EvalM.create_bind_follows hL hresult (Simulates.pure (hL.scratch hleft hresult))
  cases op with
  | and =>
      refine Simulates.bind ?_ hbool
      rw [hL.truthy hleft]
      split
      · exact evalTruth_follows hL hsub hr
      · exact Simulates.pure rfl
  | or =>
      refine Simulates.bind ?_ hbool
      rw [hL.truthy hleft]
      split
      · exact Simulates.pure rfl
      · exact evalTruth_follows hL hsub hr
  | mem => exact Simulates.bind (Tester.apply_follows hL hsub .mem (.named "seq" hr) hleft) hbool
  | concat =>
      refine Simulates.bind (hsub.eval _ _ hr) fun right right' hright => ?_
      exact Simulates.pure (hL.concat hleft hright)
  | _ => exact harith _

/-! ### Filters

The defaults of a filter belong to the language and not to a template.  A likeness that
changes every value of an expression leaves them as they are, so they are the same on
both sides without corresponding to themselves.
-/

/-- Corresponding values that are marked as scratch results already. -/
def Likeness.Marked (L : Likeness) (v v' : Value) : Prop :=
  L.value v v' ∧ v.asTemporary = v ∧ v'.asTemporary = v'

theorem Filter.apply_follows {env env' : Env} (hL : L.Keeps env.width env'.width)
    (hsub : Evaluator.Alike L b b' sub sub') {f : Filter} (hf : L.allows f)
    {args args' : CallArgs Expr} (hargs : CallArgs.Alike (Expr.Alike L) args args')
    {v v' : Value} (hv : L.value v v') :
    Follows L b b' L.Marked (f.apply env sub args v) (f.apply env' sub' args' v') := by
  -- The filter's own defaults need not correspond to themselves, but they are the same.
  let M : Likeness := ⟨fun v v' => L.value v v' ∨ v = v', L.text, L.allows⟩
  have hformals : List.Forall₂ (Formal.Alike M) f.formals f.formals :=
    List.forall₂_same.mpr fun p _ => Formal.Alike.refl (fun _ => Or.inr rfl) p
  have hempty : ∀ v v', M.value v v' → v.isEmpty = v'.isEmpty := by
    intro v v' h
    rcases h with h | rfl
    · exact hL.isEmpty h
    · rfl
  have hbd := bind_alike hempty hformals hargs
  have hdata : Follows L b b' (fun d d' => L.value (.of d) (.of d'))
      (f.payload sub (bind f.formals args) (v.toOwnText env.width))
      (f.payload sub' (bind f.formals args') (v'.toOwnText env'.width)) := by
    rw [Filter.payload_eq, Filter.payload_eq]
    have hvalue : ∀ p p', p = p' → Follows L b b' M.value
        ((bind f.formals args).value sub p) ((bind f.formals args').value sub' p') := by
      intro p p' hp
      subst hp
      exact Binding.value_follows_weakly (fun _ _ => Or.inl) hL.empty hsub hbd p
    refine Simulates.bind (Simulates.mapM hvalue (List.forall₂_refl f.params)) ?_
    exact fun vs vs' hvs => Simulates.pure (hL.filter hf hv hvs)
  refine Simulates.bind hdata fun d d' hd => ?_
  exact EvalM.create_bind_follows hL hd (Simulates.pure ⟨hL.made hd, rfl, rfl⟩)

/-- What comes out of a chain with a filter in it is a scratch result. -/
theorem evalChain_follows {env env' : Env} (hL : L.Keeps env.width env'.width)
    (hsub : Evaluator.Alike L b b' sub sub') {link link' : FilterLink Expr}
    (hlink : FilterLink.Alike L.allows (Expr.Alike L) link link')
    {chain chain' : List (FilterLink Expr)}
    (hchain : List.Forall₂ (FilterLink.Alike L.allows (Expr.Alike L)) chain chain')
    {v v' : Value} (hv : L.value v v') :
    Follows L b b' L.Marked (evalChain env sub (link :: chain) v)
      (evalChain env' sub' (link' :: chain') v') := by
  have happly : ∀ (u u' : Value) (link link' : FilterLink Expr), L.value u u' →
      FilterLink.Alike L.allows (Expr.Alike L) link link' →
      Follows L b b' L.Marked (link.filter.apply env sub link.args u)
        (link'.filter.apply env' sub' link'.args u') := by
    intro u u' link link' hu hlink
    obtain ⟨hf, hargs⟩ := hlink
    exact Filter.apply_follows hL hsub hf hargs hu
  refine Simulates.bind (happly v v' link link' hv hlink) fun u u' hu => ?_
  refine Simulates.foldlM ?_ hchain hu
  exact fun u u' link link' hu hlink => happly u u' link link' hu.1 hlink

/-! ### Calls

Binding matches the parameters and the keywords, not the values, so alike calls take the
same branch: both bind or neither does.  A function that is called for its value and one
that writes share `enter`, which is followed once.
-/

theorem Library.resolve_alike {l l' : Library} (hL : L.Keeps w w') (hl : Library.Alike L l l')
    {v v' : Value} (hv : L.value v v') :
    Option.Rel (FunctionDef.Alike L) (l.resolve v) (l'.resolve v') := by
  have hfind : ∀ id? : Option Nat,
      Option.Rel (FunctionDef.Alike L) (id?.bind l.find?) (id?.bind l'.find?) := by
    intro id?
    cases id? with
    | none => exact .none
    | some id => exact hl id
  have hmember : (v.asMap?.bind fun m => m.get? callMember).bind Value.asFunction?
      = (v'.asMap?.bind fun m => m.get? callMember).bind Value.asFunction? := by
    rcases eq_or_exists_of_rel (hL.asMap? hv) with ⟨hn, hn'⟩ | ⟨m, m', hm, hm', hget⟩
    · rw [hn, hn']
    · rw [hm, hm', Option.bind_some, Option.bind_some]
      rcases eq_or_exists_of_rel (hget callMember) with ⟨hn, hn'⟩ | ⟨f, f', hf, hf', hrel⟩
      · rw [hn, hn']
      · rw [hf, hf']
        exact hL.asFunction? hrel
  rw [Library.resolve_eq, Library.resolve_eq, hL.asFunction? hv, hmember]
  exact hfind _

theorem Binding.Alike.succeeded {ε ε' : Type} {R : ε → ε' → Prop} {bd : Binding ε}
    {bd' : Binding ε'} (h : Binding.Alike L R bd bd') : bd.succeeded = bd'.succeeded := by
  unfold Binding.succeeded
  rw [h.missing]

theorem enter_follows (hL : L.Keeps w w') (hsub : Evaluator.Alike L b b' sub sub')
    {fs fs' : List Formal} (hfs : List.Forall₂ (Formal.Alike L) fs fs') {args args' : CallArgs Expr}
    (hargs : CallArgs.Alike (Expr.Alike L) args args') :
    Follows L b b' Eq (enter sub fs args) (enter sub' fs' args') := by
  have hbd := bind_alike (fun _ _ => hL.isEmpty) hfs hargs
  unfold enter
  dsimp only
  rw [hbd.succeeded]
  by_cases h : (bind fs' args').succeeded = true
  · rw [if_pos h, if_pos h]
    have hargs := Dict.entries_alike hbd.args
    have hextra := Dict.entries_alike hbd.extraKeyword
    refine Simulates.bind (evalEntries_follows (Bound.value_follows hsub) hargs) ?_
    intro bound bound' hbound
    refine Simulates.bind (Simulates.mapM hsub.eval hbd.extraPositional) ?_
    intro rest rest' hrest
    refine Simulates.bind (evalEntries_follows hsub.eval hextra) ?_
    intro named named' hnamed
    refine Simulates.seq EvalM.pushScope_follows ?_
    refine Simulates.seq (Simulates.forM ?_ hbound) ?_
    · intro x x' hx
      obtain ⟨name, hv⟩ := hx
      exact EvalM.define_follows name hv
    refine Simulates.bind (EvalM.create_follows hL (hL.list hrest)) fun r r' hr => ?_
    refine Simulates.bind (EvalM.create_follows hL (hL.map (Dict.ofList_alike hnamed)))
      fun n n' hn => ?_
    refine Simulates.seq (EvalM.define_follows "args" hr) ?_
    refine Simulates.seq (EvalM.define_follows "kwargs" hn) ?_
    exact Simulates.pure rfl
  · rw [if_neg h, if_neg h, hbd.missing]
    exact Simulates.seq (EvalM.note_follows _) (Simulates.pure rfl)

theorem renderAll_follows (hsub : Evaluator.Alike L b b' sub sub') {es es' : List Expr}
    (hes : List.Forall₂ (Expr.Alike L) es es') {t t' : Text} (ht : L.text t t') :
    Follows L b b' L.text (renderAll sub es t) (renderAll sub' es' t') := by
  have hrender : ∀ t t' e e', L.text t t' → Expr.Alike L e e' →
      Follows L b b' L.text (sub.render e t) (sub'.render e' t') :=
    fun _ _ _ _ ht he => hsub.render he ht
  exact Simulates.foldlM hrender hes ht

theorem emit_follows (hL : L.Keeps w w') (hsub : Evaluator.Alike L b b' sub sub')
    {fs fs' : List Formal} (hfs : List.Forall₂ (Formal.Alike L) fs fs') {es es' : List Expr}
    (hes : List.Forall₂ (Expr.Alike L) es es') {args args' : CallArgs Expr}
    (hargs : CallArgs.Alike (Expr.Alike L) args args') {t t' : Text} (ht : L.text t t') :
    Follows L b b' L.text (emit sub fs es args t) (emit sub' fs' es' args' t') := by
  refine Simulates.bind (enter_follows hL hsub hfs hargs) ?_
  intro entered entered' hentered
  subst hentered
  cases entered with
  | false => exact Simulates.pure ht
  | true =>
      refine Simulates.bind (renderAll_follows hsub hes ht) fun u u' hu => ?_
      exact Simulates.seq EvalM.popScope_follows (Simulates.pure hu)

theorem compute_follows (hL : L.Keeps w w') (hsub : Evaluator.Alike L b b' sub sub')
    {fs fs' : List Formal} (hfs : List.Forall₂ (Formal.Alike L) fs fs') {e e' : Expr}
    (he : Expr.Alike L e e') {args args' : CallArgs Expr}
    (hargs : CallArgs.Alike (Expr.Alike L) args args') :
    Follows L b b' L.value (compute sub fs e args) (compute sub' fs' e' args') := by
  refine Simulates.bind (enter_follows hL hsub hfs hargs) ?_
  intro entered entered' hentered
  subst hentered
  cases entered with
  | false => exact Simulates.pure hL.empty
  | true =>
      refine Simulates.bind (hsub.eval _ _ he) fun v v' hv => ?_
      exact Simulates.seq EvalM.popScope_follows (Simulates.pure hv)

theorem FunctionDef.call_follows {env env' : Env} (hL : L.Keeps env.width env'.width)
    (hsub : Evaluator.Alike L b b' sub sub') {f f' : FunctionDef} (hf : FunctionDef.Alike L f f')
    {args args' : CallArgs Expr} (hargs : CallArgs.Alike (Expr.Alike L) args args') :
    Follows L b b' L.value (f.call env sub args) (f'.call env' sub' args') := by
  obtain ⟨tag, origin, behaviour⟩ := f
  obtain ⟨tag', origin', behaviour'⟩ := f'
  obtain ⟨rfl, -, hbehaviour⟩ := hf
  refine Simulates.seq (EvalM.note_follows tag) ?_
  cases hbehaviour with
  | answer hv => exact Simulates.pure hv
  | compute hfs he => exact compute_follows hL hsub hfs he hargs
  | emit hfs hes =>
      refine Simulates.bind (emit_follows hL hsub hfs hes hargs hL.emptyText) fun t t' ht => ?_
      exact EvalM.create_follows hL (hL.ofText ht)

theorem FunctionDef.stream_follows (hL : L.Keeps w w') (hsub : Evaluator.Alike L b b' sub sub')
    {f f' : FunctionDef} (hf : FunctionDef.Alike L f f') {args args' : CallArgs Expr}
    (hargs : CallArgs.Alike (Expr.Alike L) args args') {t t' : Text} (ht : L.text t t') :
    Follows L b b' L.text (f.stream sub args t) (f'.stream sub' args' t') := by
  obtain ⟨tag, origin, behaviour⟩ := f
  obtain ⟨tag', origin', behaviour'⟩ := f'
  obtain ⟨rfl, -, hbehaviour⟩ := hf
  refine Simulates.seq (EvalM.note_follows tag) ?_
  cases hbehaviour with
  | answer hv => exact Simulates.pure (hL.write ht hv)
  | compute hfs he =>
      refine Simulates.bind (compute_follows hL hsub hfs he hargs) fun v v' hv => ?_
      exact Simulates.pure (hL.write ht hv)
  | emit hfs hes => exact emit_follows hL hsub hfs hes hargs ht

theorem rangeFormals_alike : List.Forall₂ (Formal.Alike L) rangeFormals rangeFormals :=
  .cons (.ofNone _ _) (.cons (.ofNone _ _) (.cons (.ofNone _ _) .nil))

theorem rangeStep_follows (hL : L.Keeps w w') (hsub : Evaluator.Alike L b b' sub sub')
    {bd bd' : Binding Expr} (hbd : Binding.Alike L (Expr.Alike L) bd bd') :
    Follows L b b' Eq (rangeStep sub bd) (rangeStep sub' bd') := by
  unfold rangeStep
  rcases eq_or_exists_of_rel (Dict.get?_alike hbd.args "step") with
    ⟨hn, hn'⟩ | ⟨x, x', hx, hx', hrel⟩
  · rw [hn, hn']
    exact Simulates.pure rfl
  · rw [hx, hx']
    refine Simulates.bind (Bound.value_follows hsub x x' hrel) fun v v' hv => ?_
    exact Simulates.pure (hL.toInt hv 0)

theorem evalRange_follows (hL : L.Keeps w w') (hsub : Evaluator.Alike L b b' sub sub')
    {args args' : CallArgs Expr} (hargs : CallArgs.Alike (Expr.Alike L) args args') :
    Follows L b b' L.value (evalRange sub args) (evalRange sub' args') := by
  have hbd := bind_alike (fun _ _ => hL.isEmpty) rangeFormals_alike hargs
  unfold evalRange
  dsimp only
  rw [hbd.succeeded]
  by_cases h : (bind rangeFormals args').succeeded = true
  · rw [if_pos h, if_pos h]
    refine Simulates.bind (Binding.value_follows hL hsub hbd "start") fun start start' hstart => ?_
    refine Simulates.bind (Binding.value_follows hL hsub hbd "stop") fun stop stop' hstop => ?_
    refine Simulates.bind (rangeStep_follows hL hsub hbd) ?_
    intro step step' hstep
    subst hstep
    rw [hL.toInt hstart, hL.toInt hstop]
    split
    · exact Simulates.pure hL.empty
    · exact EvalM.create_follows hL (hL.progression _ _ _)
  · rw [if_neg h, if_neg h]
    exact Simulates.pure hL.empty

theorem evalCycle_follows (hL : L.Keeps w w') (hsub : Evaluator.Alike L b b' sub sub')
    {args args' : CallArgs Expr} (hargs : CallArgs.Alike (Expr.Alike L) args args') :
    Follows L b b' L.value (evalCycle sub args) (evalCycle sub' args') := by
  obtain ⟨hps, -⟩ := hargs
  refine Simulates.bind (EvalM.lookup_follows "loop") fun loop? loop?' hloop => ?_
  have hmap : Option.Rel (fun m m' => ∀ key, Option.Rel L.value (m.get? key) (m'.get? key))
      (loop?.bind Value.asMap?) (loop?'.bind Value.asMap?) := by
    cases hloop with
    | none => exact .none
    | some hv => exact hL.asMap? hv
  rcases eq_or_exists_of_rel hmap with ⟨hn, hn'⟩ | ⟨m, m', hm, hm', hget⟩
  · rw [hn, hn']
    exact Simulates.pure hL.empty
  · rw [hm, hm']
    have hindex := hL.toInt (getD_rel (hget "index0") hL.empty) 0
    dsimp only
    rw [hindex, hps.length_eq]
    rcases eq_or_exists_of_rel (getElem?_alike hps (cyclePosition
      (((m'.get? "index0").getD .empty).toInt 0) _)) with ⟨hn, hn'⟩ | ⟨e, e', he, he', hrel⟩
    · rw [hn, hn']
      exact Simulates.pure hL.empty
    · rw [he, he']
      exact hsub.eval _ _ hrel

section

variable {env env' : Env}

theorem dispatch_follows (hL : L.Keeps env.width env'.width)
    (hlib : Library.Alike L env.library env'.library) (hsub : Evaluator.Alike L b b' sub sub')
    {v v' : Value} (hv : L.value v v') {args args' : CallArgs Expr}
    (hargs : CallArgs.Alike (Expr.Alike L) args args') :
    Follows L b b' L.value (dispatch env sub v args) (dispatch env' sub' v' args') := by
  unfold dispatch
  rw [hL.asBuiltin? hv]
  split
  · exact evalRange_follows hL hsub hargs
  · exact evalCycle_follows hL hsub hargs
  · rcases eq_or_exists_of_rel (Library.resolve_alike hL hlib hv) with
      ⟨hn, hn'⟩ | ⟨f, f', hf, hf', hrel⟩
    · rw [hn, hn']
      exact Simulates.pure hL.empty
    · rw [hf, hf']
      dsimp only
      rw [hrel.origin]
      split
      · exact FunctionDef.call_follows hL hsub hrel hargs
      · exact Simulates.pure hL.empty

theorem renderCall_follows (hL : L.Keeps env.width env'.width)
    (hlib : Library.Alike L env.library env'.library) (hsub : Evaluator.Alike L b b' sub sub')
    {f f' : Expr} (hf : Expr.Alike L f f') {args args' : CallArgs Expr}
    (hargs : CallArgs.Alike (Expr.Alike L) args args') {t t' : Text} (ht : L.text t t') :
    Follows L b b' L.text (renderCall env sub f args t) (renderCall env' sub' f' args' t') := by
  refine Simulates.bind (hsub.eval _ _ hf) fun callee callee' hcallee => ?_
  rcases eq_or_exists_of_rel (Library.resolve_alike hL hlib hcallee) with
    ⟨hn, hn'⟩ | ⟨d, d', hd, hd', hrel⟩
  · rw [hn, hn']
    refine Simulates.bind (dispatch_follows hL hlib hsub hcallee hargs) fun v v' hv => ?_
    exact Simulates.pure (hL.write ht hv)
  · rw [hd, hd']
    exact FunctionDef.stream_follows hL hsub hrel hargs ht

/-! ### Expressions

An expression of any kind but a subscript or a chain without filters marks only what it
has made.  `evalStep_keeps` is about those kinds and asks less of the likeness; the
other two are added by `evalStep_follows`.
-/

/-- Expressions that put marks on no value but those they make. -/
def Expr.marksOwn : Expr → Bool
  | .subscript _ _ => false
  | .filtered _ [] => false
  | _ => true

theorem evalIndex_follows (hL : L.Respects w w') (hsub : Evaluator.Alike L b b' sub sub')
    (v v' : Value) (e e' : Expr) (hv : L.value v v') (he : Expr.Alike L e e') :
    Follows L b b' L.value (evalIndex sub v e) (evalIndex sub' v' e') := by
  refine Simulates.bind (hsub.eval _ _ he) fun key key' hkey => ?_
  obtain ⟨hread, hnew⟩ := hL.reading hv hkey
  have hsubscript : Follows L b b' L.value (v.subscript key) (v'.subscript key') := by
    rw [Value.subscript_eq, Value.subscript_eq, hnew]
    by_cases h : (v'.reading key').2 = true
    · rw [if_pos h, if_pos h]
      refine EvalM.create_follows hL.toKeeps ?_
      rw [Value.of_reading v key (hnew.trans h), Value.of_reading v' key' h]
      exact hread
    · rw [if_neg h, if_neg h]
      exact Simulates.pure hread
  refine Simulates.bind hsubscript fun u u' hu => ?_
  exact Simulates.pure (hL.setParent hu hv)

theorem evalGuarded_follows (hL : L.Keeps w w') (hsub : Evaluator.Alike L b b' sub sub')
    {e e' : Expr} (he : Expr.Alike L e e') {g g' : Guard Expr}
    (hg : Guard.Alike (Expr.Alike L) g g') :
    Follows L b b' L.value (evalGuarded sub e g) (evalGuarded sub' e' g') := by
  obtain ⟨htest, hother⟩ := hg
  refine Simulates.bind (hsub.eval _ _ he) fun v v' hv => ?_
  refine Simulates.bind (hsub.eval _ _ htest) fun t t' ht => ?_
  rw [hL.truthy ht]
  split
  · exact Simulates.pure hv
  · cases hother with
    | none => exact Simulates.pure hL.empty
    | some ho => exact hsub.eval _ _ ho

theorem evalStep_keeps (hL : L.Keeps env.width env'.width)
    (hlib : Library.Alike L env.library env'.library) (hsub : Evaluator.Alike L b b' sub sub')
    {e e' : Expr} (he : Expr.Alike L e e') (hown : e.marksOwn = true) :
    Follows L b b' L.value (evalStep env sub e) (evalStep env' sub' e') := by
  cases he with
  | const hv => exact Simulates.pure hv
  | var name =>
      refine Simulates.bind (EvalM.lookup_follows name) fun v v' hv => ?_
      exact Simulates.pure (getD_rel hv hL.empty)
  | subscript hb his => exact absurd hown (by simp [Expr.marksOwn])
  | filtered hb hls =>
      cases hls with
      | nil => exact absurd hown (by simp [Expr.marksOwn])
      | cons hlink hls =>
          refine Simulates.bind (hsub.eval _ _ hb) fun v v' hv => ?_
          refine Simulates.bind (evalChain_follows hL hsub hlink hls hv) ?_
          intro u u' hu
          obtain ⟨hu, hmarked, hmarked'⟩ := hu
          rw [hmarked, hmarked']
          exact Simulates.pure hu
  | unary op he =>
      refine Simulates.bind (hsub.eval _ _ he) fun v v' hv => ?_
      exact Simulates.pure (hL.made (hL.unary op hv))
  | binary op hl hr => exact evalBinary_follows hL hsub op hl hr
  | tuple hes =>
      refine Simulates.bind (Simulates.mapM hsub.eval hes) fun vs vs' hvs => ?_
      exact EvalM.create_follows hL (hL.list hvs)
  | dict hes =>
      refine Simulates.bind (evalEntries_follows hsub.eval hes) fun vs vs' hvs => ?_
      exact EvalM.create_follows hL (hL.map (Dict.ofList_alike hvs))
  | test t he hargs =>
      refine Simulates.bind (hsub.eval _ _ he) fun v v' hv => ?_
      refine Simulates.bind (Tester.apply_follows hL hsub t hargs hv) ?_
      intro passed passed' hpassed
      subst hpassed
      exact Simulates.pure (hL.made (hL.bool passed))
  | call hf hargs =>
      refine Simulates.bind (hsub.eval _ _ hf) fun v v' hv => ?_
      exact dispatch_follows hL hlib hsub hv hargs
  | full hb hg =>
      cases hb with
      | none => exact Simulates.pure hL.empty
      | some he =>
          cases hg with
          | none => exact hsub.eval _ _ he
          | some hg => exact evalGuarded_follows hL hsub he hg

theorem evalStep_follows (hL : L.Respects env.width env'.width)
    (hlib : Library.Alike L env.library env'.library) (hsub : Evaluator.Alike L b b' sub sub')
    {e e' : Expr} (he : Expr.Alike L e e') :
    Follows L b b' L.value (evalStep env sub e) (evalStep env' sub' e') := by
  cases hown : e.marksOwn with
  | true => exact evalStep_keeps hL.toKeeps hlib hsub he hown
  | false =>
      cases he with
      | subscript hb his =>
          refine Simulates.bind (hsub.eval _ _ hb) fun v v' hv => ?_
          exact Simulates.foldlM (evalIndex_follows hL hsub) his hv
      | filtered hb hls =>
          cases hls with
          | nil =>
              refine Simulates.bind (hsub.eval _ _ hb) fun v v' hv => ?_
              exact Simulates.pure (hL.asTemporary hv)
          | cons => exact absurd hown (by simp [Expr.marksOwn])
      | _ => exact absurd hown (by simp [Expr.marksOwn])

theorem renderStep_follows (hL : L.Respects env.width env'.width)
    (hlib : Library.Alike L env.library env'.library) (hsub : Evaluator.Alike L b b' sub sub')
    {e e' : Expr} (he : Expr.Alike L e e') {t t' : Text} (ht : L.text t t') :
    Follows L b b' L.text (renderStep env sub e t) (renderStep env' sub' e' t') := by
  have hwrite : Follows L b b' L.text (do pure (t.write (← evalStep env sub e)))
      (do pure (t'.write (← evalStep env' sub' e'))) := by
    refine Simulates.bind (evalStep_follows hL hlib hsub he) fun v v' hv => ?_
    exact Simulates.pure (hL.write ht hv)
  cases he with
  | call hf hargs => exact renderCall_follows hL.toKeeps hlib hsub hf hargs ht
  | full hb hg =>
      cases hb with
      | none =>
          cases hg with
          | none => exact Simulates.pure ht
          | some _ => exact hwrite
      | some he =>
          cases hg with
          | none => exact hsub.render he ht
          | some _ => exact hwrite
  | _ => exact hwrite

/-- **A run with more depth follows an alike one with less.** -/
theorem runs_follow (hL : L.Respects env.width env'.width)
    (hlib : Library.Alike L env.library env'.library) (b b' : Context) {n m : Nat} (hnm : n ≤ m) :
    Evaluator.Alike L b b' ⟨evalTo env n, renderTo env n⟩ ⟨evalTo env' m, renderTo env' m⟩ := by
  induction n generalizing m with
  | zero => exact ⟨fun _ _ _ => Simulates.outOfDepth _, fun _ _ => Simulates.outOfDepth _⟩
  | succ n ih =>
      cases m with
      | zero => exact absurd hnm (by omega)
      | succ m =>
          have hsub := ih (Nat.le_of_succ_le_succ hnm)
          exact ⟨fun _ _ he => evalStep_follows hL hlib hsub he,
            fun he ht => renderStep_follows hL hlib hsub he ht⟩

end

end TemplateExpr
