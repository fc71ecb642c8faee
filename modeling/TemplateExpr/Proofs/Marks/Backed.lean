/-
Scratch results that hang off other values.

A scratch result that hangs off another value is *backed*.  Only an index makes one: it
reads a scratch result out of a container it was stored in, leaves the mark on it and
hangs it off the container.  Every other expression, over values none of which is
backed, nested ones included, has such a value again, because it marks new values only
and a cell that is used again loses its parent.  So the values met during an evaluation
are free of backed ones exactly as long as the subscripts among them are.

The statement is about watched runs.  A run that passes where subscripts are watched
passes where everything is, so nothing but a subscript can have made a backed value first.
-/
import TemplateExpr.Proofs.Simulation.Over
import TemplateExpr.Proofs.Values.Held
import TemplateExpr.Proofs.Values.Reuse
import TemplateExpr.Proofs.Watch

namespace TemplateExpr

open EvalM (Simulates Follows)

/-- A scratch result that hangs off another value. -/
def Value.backed (v : Value) : Bool := v.temporary && v.parent.isSome

/-- Neither a value nor any value inside it is backed. -/
def Value.clean (v : Value) : Bool := v.everywhere fun u => !u.backed

/-- Every value a value holds is clean, whatever its own marks. -/
def Value.CleanInside (v : Value) : Prop := ∀ u ∈ v.data.held, u.clean = true

theorem Value.clean_iff {v : Value} : v.clean = true ↔ v.backed = false ∧ v.CleanInside := by
  unfold clean CleanInside
  rw [everywhere_iff, Bool.not_eq_true']
  rfl

/-! ### Values made of clean ones

A value can be clean inside and backed itself.  So what an operation makes is clean as
soon as its own marks are those of a new value and all it holds was clean before.
-/

namespace Value

variable {data : Payload Value}

theorem clean_of (h : (of data).CleanInside) : (of data).clean = true := clean_iff.mpr ⟨rfl, h⟩

theorem cleanInside_of (h : data.held = []) : (of data).CleanInside := by
  intro u hu
  exact absurd (h ▸ hu) List.not_mem_nil

theorem clean_ofInt (i : Int64) : (ofInt i).clean = true := clean_of (cleanInside_of rfl)

theorem clean_scratch (left : Value) (h : (of data).CleanInside) :
    (left.scratch data).clean = true := by
  rw [scratch_eq]
  exact clean_iff.mpr ⟨rfl, h⟩

/-- A text that is joined onto in place was not backed, so the joined one is not. -/
theorem clean_concat (w : CharWidth) {left : Value} (right : Value) (h : left.clean = true) :
    (left.concat w right).clean = true := by
  rw [concat_eq]
  cases (left.toOwnText w).append (right.toOwnText w) with
  | error err => exact clean_of (cleanInside_of rfl)
  | ok t =>
      refine clean_iff.mpr ⟨?_, cleanInside_of rfl⟩
      obtain ⟨hbacked, -⟩ := clean_iff.mp h
      unfold backed at hbacked ⊢
      by_cases hplace : (left.temporary && left.asText?.isSome) = true
      · rw [if_pos hplace]
        rw [((Bool.and_eq_true _ _).mp hplace).1] at hbacked
        exact hbacked
      · rw [if_neg hplace]
        rfl

theorem clean_reading {base : Value} (key : Value) (h : base.CleanInside) :
    (base.reading key).1.clean = true :=
  of_reading_held (P := fun v => v.clean = true) clean_ofInt (clean_of (cleanInside_of rfl))
    (fun _ _ _ _ => clean_of (cleanInside_of rfl)) h

end Value

/-! ### What keeps values clean

The likeness relates a clean value to itself and to nothing else, so its simulations say
that clean values lead to clean values.  It is kept by everything but reading an index
out of a container of scratch results.
-/

/-- Clean values correspond to themselves. -/
abbrev Likeness.clean : Likeness := .only Value.clean fun _ => True

theorem Likeness.clean_keeps (w : CharWidth) : Likeness.clean.Keeps w w where
  slot := fun h => congrArg (fun v : Value => v.data.slot?.isSome) h.1
  isEmpty := fun h => congrArg Value.isEmpty h.1
  truthy := fun h => congrArg Value.truthy h.1
  toInt := fun h default => congrArg (fun v : Value => v.toInt default) h.1
  asBuiltin? := fun h => congrArg Value.asBuiltin? h.1
  asFunction? := fun h => congrArg Value.asFunction? h.1
  asMap? := by
    intro v v' h
    obtain ⟨rfl, hclean⟩ := h
    refine rel_refl fun m hm key => rel_refl fun u hu => ⟨rfl, ?_⟩
    refine (Value.clean_iff.mp hclean).2 u ?_
    rw [Value.data_of_asMap? hm]
    exact MapSource.held_of_get? hu
  memberOf := fun hv hs => congrArg₂ Value.memberOf hv.1 hs.1
  empty := ⟨rfl, Value.clean_of (Value.cleanInside_of rfl)⟩
  bool := fun _ => ⟨rfl, Value.clean_of (Value.cleanInside_of rfl)⟩
  ofText := fun h => ⟨congrArg Value.ofText h, Value.clean_of (Value.cleanInside_of rfl)⟩
  list := by
    intro vs vs' h
    obtain ⟨rfl, hall⟩ := eq_of_forall₂_only h
    exact ⟨rfl, Value.clean_of hall⟩
  map := by
    intro es es' h
    obtain ⟨rfl, hall⟩ := eq_of_alike_only h
    exact ⟨rfl, Value.clean_of hall⟩
  progression := fun _ _ _ => ⟨rfl, Value.clean_of (Value.cleanInside_of rfl)⟩
  made := by
    intro d d' h
    obtain ⟨heq, hclean⟩ := h
    refine ⟨congrArg Value.asTemporary heq, Value.clean_iff.mpr ⟨rfl, ?_⟩⟩
    exact (Value.clean_iff.mp hclean).2
  unary := fun op _ _ h => ⟨congrArg (fun v => Value.of (op.apply v)) h.1,
    Value.clean_of (Value.cleanInside_of (Payload.held_of_slot? (op.slot?_apply _)))⟩
  binary := by
    intro op v v' u u' hv hu
    obtain ⟨rfl, hv⟩ := hv
    obtain ⟨rfl, hu⟩ := hu
    refine ⟨rfl, Value.clean_of ?_⟩
    exact op.forall_held Value.clean_ofInt (Value.clean_iff.mp hv).2 (Value.clean_iff.mp hu).2
  scratch := by
    intro v v' d d' hv hd
    obtain ⟨rfl, -⟩ := hv
    obtain ⟨heq, hclean⟩ := hd
    obtain rfl : d = d' := congrArg Value.data heq
    exact ⟨rfl, Value.clean_scratch v (Value.clean_iff.mp hclean).2⟩
  concat := by
    intro v v' u u' hv hu
    obtain ⟨rfl, hv⟩ := hv
    obtain ⟨rfl, -⟩ := hu
    exact ⟨rfl, Value.clean_concat w u hv⟩
  filter := by
    intro f v v' args args' _ hv h
    obtain ⟨rfl, -⟩ := hv
    have hargs : List.Forall₂ Eq args args' := h.imp fun _ _ ha => ha.elim And.left id
    rw [List.forall₂_eq_eq_eq] at hargs
    obtain rfl : args = args' := hargs
    exact ⟨rfl, Value.clean_of (Value.cleanInside_of (f.held_result _ _))⟩
  emptyText := rfl
  write := fun ht hv => congrArg₂ Text.write ht hv.1

/-! ### Indices -/

/-- The same value, clean inside but maybe backed itself. -/
def SameInside (v v' : Value) : Prop := v = v' ∧ v.CleanInside

theorem sameInside_of_clean {v v' : Value} (h : Likeness.clean.value v v') : SameInside v v' :=
  ⟨h.1, (Value.clean_iff.mp h.2).2⟩

section

variable {b b' : Context} {sub sub' : Evaluator}

theorem evalIndex_inside (hsub : Evaluator.Alike .clean b b' sub sub') (v v' : Value) (e e' : Expr)
    (hv : SameInside v v') (he : Expr.Alike .clean e e') :
    Follows .clean b b' SameInside (evalIndex sub v e) (evalIndex sub' v' e') := by
  obtain ⟨rfl, hinside⟩ := hv
  refine Simulates.bind (hsub.eval _ _ he) fun key key' hkey => ?_
  obtain ⟨rfl, -⟩ := hkey
  have hread : Likeness.clean.value (v.reading key).1 (v.reading key).1 :=
    ⟨rfl, Value.clean_reading key hinside⟩
  have hsubscript :
      Follows .clean b b' Likeness.clean.value (v.subscript key) (v.subscript key) := by
    rw [Value.subscript_eq]
    by_cases h : (v.reading key).2 = true
    · rw [if_pos h]
      refine EvalM.create_follows (Likeness.clean_keeps .narrow) ?_
      rw [Value.of_reading v key h]
      exact hread
    · rw [if_neg h]
      exact Simulates.pure hread
  refine Simulates.bind hsubscript fun u u' hu => ?_
  obtain ⟨rfl, hu⟩ := hu
  refine Simulates.pure ⟨rfl, ?_⟩
  split
  · exact (Value.clean_iff.mp hu).2
  · exact (Value.clean_iff.mp hu).2

/-- What an expression marks that it did not make is clean inside all the same. -/
theorem evalStep_inside {env env' : Env} (hsub : Evaluator.Alike .clean b b' sub sub') {e e' : Expr}
    (he : Expr.Alike .clean e e') (hown : e.marksOwn = false) :
    Follows .clean b b' SameInside (evalStep env sub e) (evalStep env' sub' e') := by
  cases he with
  | subscript hb his =>
      refine Simulates.bind (hsub.eval _ _ hb) fun v v' hv => ?_
      exact Simulates.foldlM (evalIndex_inside hsub) his (sameInside_of_clean hv)
  | filtered hb hls =>
      cases hls with
      | cons => exact absurd hown (by simp [Expr.marksOwn])
      | nil =>
          refine Simulates.bind (hsub.eval _ _ hb) fun v v' hv => ?_
          obtain ⟨rfl, hclean⟩ := hv
          exact Simulates.pure ⟨rfl, (Value.clean_iff.mp hclean).2⟩
  | _ => exact absurd hown (by simp [Expr.marksOwn])

/-- An index reads a backed value exactly where it reads a scratch result out of a kept value. -/
theorem backed_of_evalIndex {cur v : Value} {index : Expr} {c c₁ : Context} (hcur : cur.CleanInside)
    (hrun : evalIndex sub cur index c = some (v, c₁)) :
    ∃ key c', sub.eval index c = some (key, c') ∧
      v.backed = ((cur.reading key).1.temporary && cur.extendsLifetime) := by
  obtain ⟨key, c', hkey, hrun⟩ := EvalM.bind_eq_some_iff.mp hrun
  obtain ⟨u, c'', hread, hrun⟩ := EvalM.bind_eq_some_iff.mp hrun
  obtain ⟨rfl, -⟩ := Prod.mk.inj (Option.some.inj hrun)
  have hu : u = (cur.reading key).1 := by
    rw [Value.subscript_eq] at hread
    by_cases h : (cur.reading key).2 = true
    · rw [if_pos h] at hread
      obtain ⟨rfl, -⟩ := Prod.mk.inj (Option.some.inj hread)
      exact Value.of_reading cur key h
    · rw [if_neg h] at hread
      exact (Prod.mk.inj (Option.some.inj hread)).1.symm
  subst hu
  refine ⟨key, c', hkey, ?_⟩
  by_cases h : cur.extendsLifetime = true
  · rw [if_pos h, h]
    rfl
  · rw [if_neg h, Bool.eq_false_iff.mpr h, Bool.and_false]
    exact (Value.clean_iff.mp (Value.clean_reading key hcur)).1

end

/-! ### Whole evaluations

One run refuses backed values at subscripts, the other one everywhere.  If only
subscripts make backed values, the first run never sees one elsewhere, and the two
agree.
-/

/-- A run whose subscripts are watched follows the same one in which everything is. -/
theorem watched_subscripts_follow {env : Env} (hlib : env.library.Over Value.clean fun _ => True)
    (c : Context) (n : Nat) :
    Evaluator.Alike .clean c c (watched (fun e v => e.marksOwn || !v.backed) env n)
      (watched (fun _ v => !v.backed) env n) := by
  refine watched_follow (Likeness.clean_keeps env.width) hlib ?_ (Nat.le_refl n)
  intro sub sub' e e' hsub he
  cases hown : e.marksOwn with
  | true =>
      refine watchStep_follows (evalStep_keeps (Likeness.clean_keeps env.width) hlib hsub he hown)
        ?_
      intro v v' hv _
      obtain ⟨rfl, hclean⟩ := hv
      exact ⟨by rw [(Value.clean_iff.mp hclean).1]; rfl, rfl, hclean⟩
  | false =>
      refine watchStep_follows (evalStep_inside hsub he hown) ?_
      intro v v' hv hpass
      obtain ⟨rfl, hinside⟩ := hv
      have hbacked : v.backed = false := by simpa [hown] using hpass
      exact ⟨by rw [hbacked]; rfl, rfl, Value.clean_iff.mpr ⟨hbacked, hinside⟩⟩

/--
**Only indices make backed values.**  Started with no backed value anywhere, nested
values included, an evaluation meets none exactly when none of its subscripts has one.
(An empty chain of filters counts as a subscript; it marks a value it did not make.)
And an index makes one exactly where it reads a scratch result out of a value that must
be kept.
-/
theorem backed_by_indices_only {env : Env} {e : Expr} {c : Context}
    (hlib : env.library.Over Value.clean fun _ => True) (he : e.Over Value.clean fun _ => True)
    (hc : c.scopes.Over Value.clean) :
    (∀ v c₁, EvaluatesPassing (fun _ v => !v.backed) env e c v c₁ ↔
      EvaluatesPassing (fun e v => e.marksOwn || !v.backed) env e c v c₁) ∧
    ∀ (sub : Evaluator) (cur : Value) index c v c₁, cur.CleanInside →
      evalIndex sub cur index c = some (v, c₁) →
      ∃ key c', sub.eval index c = some (key, c') ∧
        v.backed = ((cur.reading key).1.temporary && cur.extendsLifetime) := by
  refine ⟨fun v c₁ => ⟨fun h => ?_, fun h => ?_⟩, ?_⟩
  · exact h.mono fun e e' v hpass => by rw [hpass, Bool.or_true]
  · obtain ⟨n, hrun⟩ := h
    obtain ⟨v', c₁', hrun', ⟨rfl, -⟩, halike⟩ :=
      (watched_subscripts_follow hlib c n).eval e e he c c (Context.Alike.start hc) v c₁ hrun
    obtain rfl := Context.eq_of_only halike
    exact ⟨n, hrun'⟩
  · intro sub cur index c v c₁ hcur hrun
    exact backed_of_evalIndex hcur hrun

/-- What an expression evaluates to, stored in a list and read out of it again. -/
def readBack (e : Expr) : Expr := .subscript (.tuple [e]) [.const (.ofInt 0)]

private theorem readBack_over {e : Expr} (he : e.Over Value.clean fun _ => True) :
    (readBack e).Over Value.clean fun _ => True :=
  .subscript (.tuple (.cons he .nil)) (.cons (.const ⟨rfl, Value.clean_ofInt 0⟩) .nil)

private theorem empty_over : Library.empty.Over Value.clean fun _ => True := fun _ => .none

/-- An integer that is no scratch result is read back unbacked, although it hangs off the list. -/
theorem backed_by_indices_only_readBack :
    ∃ v c₁, EvaluatesPassing (fun _ v => !v.backed) ⟨.narrow, .empty⟩ (readBack (.const (.ofInt 1)))
      (.ofGlobals .nil) v c₁ ∧ v.parent.isSome = true := by
  have he : (readBack (.const (.ofInt 1))).Over Value.clean fun _ => True :=
    readBack_over (.const ⟨rfl, Value.clean_ofInt 1⟩)
  have hlib : (Env.mk .narrow .empty).library.Over Value.clean fun _ => True := empty_over
  have hruns := (backed_by_indices_only (c := .ofGlobals .nil) hlib he ⟨.nil, .nil⟩).1
  have hrun : ((watched (fun e v => e.marksOwn || !v.backed) ⟨.narrow, .empty⟩ 3).eval
      (readBack (.const (.ofInt 1))) (.ofGlobals .nil)).map (·.1.parent.isSome) = some true := by
    decide +kernel
  obtain ⟨⟨v, c₁⟩, hrun, hparent⟩ := Option.map_eq_some_iff.mp hrun
  exact ⟨v, c₁, (hruns v c₁).mpr ⟨3, hrun⟩, hparent⟩

/-- **A scratch result that is read back is backed**, though nothing was backed before. -/
theorem backed_readBack :
    Library.empty.Over Value.clean (fun _ => True) ∧
    (readBack (.unary .neg (.const (.ofInt 1)))).Over Value.clean (fun _ => True) ∧
    (Context.ofGlobals .nil).scopes.Over Value.clean ∧
    ∃ v c₁, Evaluates ⟨.narrow, .empty⟩ (readBack (.unary .neg (.const (.ofInt 1))))
      (.ofGlobals .nil) v c₁ ∧
      v.temporary = true ∧ v.parent.isSome = true := by
  refine ⟨empty_over, readBack_over (.unary .neg (.const ⟨rfl, Value.clean_ofInt 1⟩)), ⟨.nil, .nil⟩,
    ?_⟩
  have hrun : (evalTo ⟨.narrow, .empty⟩ 4 (readBack (.unary .neg (.const (.ofInt 1))))
      (.ofGlobals .nil)).map (fun r => (r.1.temporary, r.1.parent.isSome)) = some (true, true) := by
    decide +kernel
  obtain ⟨⟨v, c₁⟩, hrun, hmarks⟩ := Option.map_eq_some_iff.mp hrun
  obtain ⟨htemporary, hparent⟩ := Prod.mk.inj hmarks
  exact ⟨v, c₁, ⟨4, hrun⟩, htemporary, hparent⟩

end TemplateExpr
