/-
Likenesses that are equivalences.

When every value corresponds to itself, every expression is alike itself; when values
correspond the other way round too, so do expressions.  Both are inductions over
expressions, which hold further expressions in lists, in the arguments of calls, in
links and in guards; `induct` is the principle that hands a proof what it needs to know
of all of these.

Both inductions are about the tree and not about values, so they are made once, for any
likeness, and being reflexive or symmetric on values is the only thing that has to be
checked for a particular one.
-/
import TemplateExpr.Proofs.Dict
import TemplateExpr.Proofs.Simulation.Alike

namespace TemplateExpr

/-! ### Induction over expressions

The principle that Lean derives for expressions has a motive for every kind of list
inside them.  Here there is one motive, and what is known of the expressions inside is
handed over as membership.
-/

/-- Every argument of a call has a property. -/
def CallArgs.All {ε : Type} (P : ε → Prop) (args : CallArgs ε) : Prop :=
  (∀ e ∈ args.positional, P e) ∧ ∀ e ∈ args.keyword.values, P e

private theorem sizeOf_positional {args : CallArgs Expr} {e : Expr} (h : e ∈ args.positional) :
    sizeOf e < sizeOf args := by
  have hlt := List.sizeOf_lt_of_mem h
  obtain ⟨positional, keyword⟩ := args
  simp only [CallArgs.mk.sizeOf_spec] at hlt ⊢
  omega

private theorem sizeOf_keyword {args : CallArgs Expr} {e : Expr} (h : e ∈ args.keyword.values) :
    sizeOf e < sizeOf args := by
  have hlt := Dict.sizeOf_lt_of_mem_values h
  obtain ⟨positional, keyword⟩ := args
  simp only [CallArgs.mk.sizeOf_spec] at hlt ⊢
  omega

private theorem sizeOf_link {links : List (FilterLink Expr)} {link : FilterLink Expr}
    (h : link ∈ links) : sizeOf link.args < sizeOf links := by
  have hlt := List.sizeOf_lt_of_mem h
  obtain ⟨filter, args⟩ := link
  simp only [FilterLink.mk.sizeOf_spec] at hlt ⊢
  omega

private theorem sizeOf_entry {entries : List (String × Expr)} {x : String × Expr}
    (h : x ∈ entries) : sizeOf x.2 < sizeOf entries := by
  have hlt := List.sizeOf_lt_of_mem h
  obtain ⟨key, e⟩ := x
  simp only [Prod.mk.sizeOf_spec] at hlt ⊢
  omega

/-- Induction over expressions, with hypotheses for those inside lists, calls and guards. -/
theorem Expr.induct {P : Expr → Prop}
    (const : ∀ v, P (.const v))
    (var : ∀ name, P (.var name))
    (subscript : ∀ base indices, P base → (∀ i ∈ indices, P i) → P (.subscript base indices))
    (filtered : ∀ base chain, P base → (∀ link ∈ chain, link.args.All P) → P (.filtered base chain))
    (unary : ∀ op e, P e → P (.unary op e))
    (binary : ∀ op l r, P l → P r → P (.binary op l r))
    (tuple : ∀ items, (∀ e ∈ items, P e) → P (.tuple items))
    (dict : ∀ entries, (∀ x ∈ entries, P x.2) → P (.dict entries))
    (test : ∀ e t args, P e → args.All P → P (.test e t args))
    (call : ∀ f args, P f → args.All P → P (.call f args))
    (full : ∀ body guard, (∀ e ∈ body, P e) →
      (∀ g ∈ guard, P g.test ∧ ∀ e ∈ g.otherwise, P e) → P (.full body guard)) :
    ∀ e, P e := by
  intro e
  -- On the size, since expressions also stand inside arguments, links and guards.
  induction hn : sizeOf e using Nat.strongRecOn generalizing e with
  | ind n ih =>
      subst hn
      have hsmall : ∀ e', sizeOf e' < sizeOf e → P e' := fun e' h => ih _ h e' rfl
      have hargs : ∀ args : CallArgs Expr, sizeOf args < sizeOf e → args.All P :=
        fun args h => ⟨fun _ ha => hsmall _ (Nat.lt_trans (sizeOf_positional ha) h),
          fun _ ha => hsmall _ (Nat.lt_trans (sizeOf_keyword ha) h)⟩
      cases e with
      | const v => exact const v
      | var name => exact var name
      | subscript base indices =>
          rw [Expr.subscript.sizeOf_spec] at hsmall
          refine subscript base indices (hsmall _ (by omega)) fun i hi => hsmall _ ?_
          have := List.sizeOf_lt_of_mem hi
          omega
      | filtered base chain =>
          rw [Expr.filtered.sizeOf_spec] at hsmall hargs
          refine filtered base chain (hsmall _ (by omega)) fun link hlink => hargs _ ?_
          have := sizeOf_link hlink
          omega
      | unary op e =>
          rw [Expr.unary.sizeOf_spec] at hsmall
          exact unary op e (hsmall _ (by omega))
      | binary op l r =>
          rw [Expr.binary.sizeOf_spec] at hsmall
          exact binary op l r (hsmall _ (by omega)) (hsmall _ (by omega))
      | tuple items =>
          rw [Expr.tuple.sizeOf_spec] at hsmall
          refine tuple items fun e he => hsmall _ ?_
          have := List.sizeOf_lt_of_mem he
          omega
      | dict entries =>
          rw [Expr.dict.sizeOf_spec] at hsmall
          refine dict entries fun x hx => hsmall _ ?_
          have := sizeOf_entry hx
          omega
      | test e t args =>
          rw [Expr.test.sizeOf_spec] at hsmall hargs
          exact test e t args (hsmall _ (by omega)) (hargs _ (by omega))
      | call f args =>
          rw [Expr.call.sizeOf_spec] at hsmall hargs
          exact call f args (hsmall _ (by omega)) (hargs _ (by omega))
      | full body guard =>
          rw [Expr.full.sizeOf_spec] at hsmall
          refine full body guard ?_ ?_
          · intro e he
            obtain rfl : body = some e := he
            rw [Option.some.sizeOf_spec] at hsmall
            exact hsmall _ (by omega)
          · intro g hg
            obtain ⟨test, otherwise⟩ := g
            obtain rfl : guard = some ⟨test, otherwise⟩ := hg
            rw [Option.some.sizeOf_spec, Guard.mk.sizeOf_spec] at hsmall
            refine ⟨hsmall test (by omega), ?_⟩
            intro e he
            obtain rfl : otherwise = some e := he
            rw [Option.some.sizeOf_spec] at hsmall
            exact hsmall _ (by omega)

/-! ### Everything is alike itself -/

section

variable {ε : Type} {R : ε → ε → Prop}

theorem Entries.Alike.refl {es : List (String × ε)} (h : ∀ x ∈ es, R x.2 x.2) :
    Entries.Alike R es es :=
  List.forall₂_same.mpr fun x hx => ⟨x.1, h x hx⟩

theorem Dict.Alike.refl {bound : Option String} {d : Dict ε bound} (h : ∀ a ∈ d.values, R a a) :
    Dict.Alike R d d := by
  induction d with
  | nil => exact .nil
  | cons key a above rest ih =>
      exact .cons (h a List.mem_cons_self) (ih fun b hb => h b (List.mem_cons_of_mem _ hb))

theorem CallArgs.Alike.refl {args : CallArgs ε} (h : args.All fun e => R e e) :
    CallArgs.Alike R args args :=
  ⟨List.forall₂_same.mpr h.1, Dict.Alike.refl h.2⟩

theorem rel_refl {o : Option ε} (h : ∀ e ∈ o, R e e) : Option.Rel R o o := by
  cases o with
  | none => exact .none
  | some e => exact .some (h e rfl)

end

section

variable {L : Likeness} (hvalue : ∀ v, L.value v v) (hallows : ∀ f, L.allows f)

include hvalue

theorem Formal.Alike.refl (f : Formal) : Formal.Alike L f f :=
  ⟨rfl, rfl, rel_refl fun v _ => hvalue v⟩

theorem Scopes.Alike.refl (s : Scopes) : Scopes.Alike L s s :=
  ⟨Dict.Alike.refl fun v _ => hvalue v,
    List.forall₂_same.mpr fun _ _ => Dict.Alike.refl fun v _ => hvalue v⟩

include hallows

theorem Expr.Alike.refl (e : Expr) : Expr.Alike L e e := by
  induction e using Expr.induct with
  | const v => exact .const (hvalue v)
  | var name => exact .var name
  | subscript base indices hbase hindices => exact .subscript hbase (List.forall₂_same.mpr hindices)
  | filtered base chain hbase hchain =>
      refine .filtered hbase (List.forall₂_same.mpr fun link hlink => ?_)
      exact ⟨hallows link.filter, CallArgs.Alike.refl (hchain link hlink)⟩
  | unary op e he => exact .unary op he
  | binary op l r hl hr => exact .binary op hl hr
  | tuple items hitems => exact .tuple (List.forall₂_same.mpr hitems)
  | dict entries hentries => exact .dict (Entries.Alike.refl hentries)
  | test e t args he hargs => exact .test t he (CallArgs.Alike.refl hargs)
  | call f args hf hargs => exact .call hf (CallArgs.Alike.refl hargs)
  | full body guard hbody hguard =>
      refine .full (rel_refl hbody) (rel_refl fun g hg => ?_)
      exact ⟨(hguard g hg).1, rel_refl (hguard g hg).2⟩

theorem Library.Alike.refl (l : Library) : Library.Alike L l l := by
  intro id
  refine rel_refl fun f _ => ⟨rfl, rfl, ?_⟩
  have hformals : ∀ fs : List Formal, List.Forall₂ (Formal.Alike L) fs fs :=
    fun fs => List.forall₂_same.mpr fun f _ => Formal.Alike.refl hvalue f
  cases f.behaviour with
  | answer v => exact .answer (hvalue v)
  | compute formals body => exact .compute (hformals formals) (Expr.Alike.refl hvalue hallows body)
  | emit formals writes =>
      exact .emit (hformals formals)
        (List.forall₂_same.mpr fun e _ => Expr.Alike.refl hvalue hallows e)

end

/-! ### Being alike goes both ways -/

section

variable {α β : Type} {R : α → β → Prop} {Q : β → α → Prop}

theorem forall₂_symm {l : List α} {l' : List β} (h : List.Forall₂ R l l')
    (hQ : ∀ a ∈ l, ∀ b, R a b → Q b a) : List.Forall₂ Q l' l := by
  induction h with
  | nil => exact .nil
  | cons hab _ ih =>
      refine .cons (hQ _ List.mem_cons_self _ hab) (ih fun a ha => ?_)
      exact hQ a (List.mem_cons_of_mem _ ha)

theorem Entries.Alike.symm {es : List (String × α)} {es' : List (String × β)}
    (h : Entries.Alike R es es') (hQ : ∀ x ∈ es, ∀ b, R x.2 b → Q b x.2) :
    Entries.Alike Q es' es := by
  refine forall₂_symm h ?_
  intro x hx x' hrel
  obtain ⟨key, hab⟩ := hrel
  exact ⟨key, hQ _ hx _ hab⟩

theorem Dict.Alike.symm {bound : Option String} {d : Dict α bound} {d' : Dict β bound}
    (h : Dict.Alike R d d') (hQ : ∀ a ∈ d.values, ∀ b, R a b → Q b a) : Dict.Alike Q d' d := by
  induction h with
  | nil => exact .nil
  | cons hab _ ih =>
      refine .cons (hQ _ List.mem_cons_self _ hab) (ih fun a ha => ?_)
      exact hQ a (List.mem_cons_of_mem _ ha)

theorem CallArgs.Alike.symm {args : CallArgs α} {args' : CallArgs β}
    (h : CallArgs.Alike R args args') (hQ : args.All fun e => ∀ e', R e e' → Q e' e) :
    CallArgs.Alike Q args' args := by
  obtain ⟨hps, hks⟩ := h
  exact ⟨forall₂_symm hps hQ.1, Dict.Alike.symm hks hQ.2⟩

theorem rel_symm {o : Option α} {o' : Option β} (h : Option.Rel R o o')
    (hQ : ∀ a ∈ o, ∀ b, R a b → Q b a) : Option.Rel Q o' o := by
  cases h with
  | none => exact .none
  | some hab => exact .some (hQ _ rfl _ hab)

end

section

variable {L L' : Likeness} (hvalue : ∀ {v v'}, L.value v v' → L'.value v' v)

include hvalue

theorem Formal.Alike.converse {f f' : Formal} (h : Formal.Alike L f f') : Formal.Alike L' f' f :=
  ⟨h.name.symm, h.mandatory.symm, rel_symm h.fallback fun _ _ _ hv => hvalue hv⟩

theorem Scopes.Alike.converse {s s' : Scopes} (h : Scopes.Alike L s s') : Scopes.Alike L' s' s :=
  ⟨Dict.Alike.symm h.globals fun _ _ _ hv => hvalue hv,
    forall₂_symm h.frames fun _ _ _ hd => Dict.Alike.symm hd fun _ _ _ hv => hvalue hv⟩

variable (hallows : ∀ f, L.allows f → L'.allows f)

include hallows

theorem Expr.Alike.converse {e e' : Expr} (h : Expr.Alike L e e') : Expr.Alike L' e' e := by
  induction e using Expr.induct generalizing e' with
  | const v =>
      cases h with
      | const hv => exact .const (hvalue hv)
  | var name =>
      cases h with
      | var => exact .var name
  | subscript base indices hbase hindices =>
      cases h with
      | subscript hb his =>
          exact .subscript (hbase hb) (forall₂_symm his fun i hi _ => hindices i hi)
  | filtered base chain hbase hchain =>
      cases h with
      | filtered hb hls =>
          refine .filtered (hbase hb) (forall₂_symm hls ?_)
          intro link hlink link' hrel
          obtain ⟨hf, hargs⟩ := hrel
          exact ⟨hallows _ hf, hargs.symm (hchain _ hlink)⟩
  | unary op e he =>
      cases h with
      | unary _ h => exact .unary op (he h)
  | binary op l r hl hr =>
      cases h with
      | binary _ h h' => exact .binary op (hl h) (hr h')
  | tuple items hitems =>
      cases h with
      | tuple hes => exact .tuple (forall₂_symm hes fun e he _ => hitems e he)
  | dict entries hentries =>
      cases h with
      | dict hes => exact .dict (Entries.Alike.symm hes fun x hx _ => hentries x hx)
  | test e t args he hargs =>
      cases h with
      | test _ h h' => exact .test t (he h) (h'.symm hargs)
  | call f args hf hargs =>
      cases h with
      | call h h' => exact .call (hf h) (h'.symm hargs)
  | full body guard hbody hguard =>
      cases h with
      | full hb hg =>
          refine .full (rel_symm hb fun e he _ => hbody e he) (rel_symm hg ?_)
          intro g hmem g' hrel
          obtain ⟨ht, ho⟩ := hrel
          exact ⟨(hguard _ hmem).1 ht, rel_symm ho fun e he _ => (hguard _ hmem).2 e he⟩

theorem Library.Alike.converse {l l' : Library} (h : Library.Alike L l l') :
    Library.Alike L' l' l := by
  intro id
  refine rel_symm (h id) ?_
  intro f _ f' hf
  obtain ⟨tag, origin, behaviour⟩ := f
  obtain ⟨tag', origin', behaviour'⟩ := f'
  obtain ⟨htag, horigin, hbehaviour⟩ := hf
  refine ⟨htag.symm, horigin.symm, ?_⟩
  have hformals : ∀ {fs fs' : List Formal}, List.Forall₂ (Formal.Alike L) fs fs' →
      List.Forall₂ (Formal.Alike L') fs' fs :=
    fun hfs => forall₂_symm hfs fun _ _ _ hf => hf.converse hvalue
  cases hbehaviour with
  | answer hv => exact .answer (hvalue hv)
  | compute hfs he => exact .compute (hformals hfs) (he.converse hvalue hallows)
  | emit hfs hes =>
      exact .emit (hformals hfs) (forall₂_symm hes fun _ _ _ he => he.converse hvalue hallows)

end

section

variable {L : Likeness} (hvalue : ∀ {v v'}, L.value v v' → L.value v' v)

include hvalue

theorem Scopes.Alike.symm {s s' : Scopes} (h : Scopes.Alike L s s') : Scopes.Alike L s' s :=
  h.converse hvalue

theorem Expr.Alike.symm {e e' : Expr} (h : Expr.Alike L e e') : Expr.Alike L e' e :=
  h.converse hvalue fun _ hf => hf

theorem Library.Alike.symm {l l' : Library} (h : Library.Alike L l l') : Library.Alike L l' l :=
  h.converse hvalue fun _ hf => hf

end

end TemplateExpr
