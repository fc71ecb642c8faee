/-
The marks on the results of operators.

What an operator, a chain of filters or a tester yields is a scratch result that hangs off
nothing, whatever marks its operands had: its payload is new, and a cell that is used
again loses its parent with its payload.  The join is the exception, and twice.  Joined
onto in place, a text keeps its cell as it is and with it the parent it may have been read
out of; and texts of different widths yield the empty value, which is marked by nobody.
-/
import TemplateExpr.Proofs.Chains
import TemplateExpr.Proofs.Marks.Backed
import TemplateExpr.Proofs.Values.Recast

namespace TemplateExpr

/-- A scratch result that hangs off no other value. -/
structure Value.Fresh (v : Value) : Prop where
  temporary : v.temporary = true
  parent : v.parent = none

theorem Value.fresh_asTemporary (data : Payload Value) : (Value.of data).asTemporary.Fresh :=
  ⟨rfl, rfl⟩

theorem Value.fresh_scratch (left : Value) (data : Payload Value) : (left.scratch data).Fresh := by
  rw [scratch_eq]
  exact fresh_asTemporary data

/-- An operator other than the join, a chain of at least one filter, or a tester. -/
def Expr.operates : Expr → Bool
  | .unary _ _ => true
  | .binary op _ _ => !decide (op = .concat)
  | .filtered _ chain => !chain.isEmpty
  | .test _ _ _ => true
  | _ => false

variable {env : Env} {l r e : Expr} {c c₁ : Context} {v : Value}

/-! ### What operators yield -/

/-- Operators that may leave their right operand alone write to a scratch cell at the end. -/
private theorem fresh_of_lazy {op : BinaryOp} (hop : op = .and ∨ op = .or ∨ op = .mem)
    (h : Evaluates env (.binary op l r) c v c₁) : v.Fresh := by
  obtain ⟨n, hrun⟩ := evaluates_iff_step.mp h
  obtain ⟨left, c', -, hrun⟩ := EvalM.bind_eq_some_iff.mp hrun
  rcases hop with rfl | rfl | rfl
  all_goals
    obtain ⟨b, -, rfl⟩ := EvalM.bind_pure_eq_some_iff.mp hrun
    exact left.fresh_scratch _

theorem fresh_of_binary {op : BinaryOp} (hop : op ≠ .concat)
    (h : Evaluates env (.binary op l r) c v c₁) : v.Fresh := by
  by_cases hstrict : op.strict = true
  · obtain ⟨left, c', right, c'', -, -, rfl, -⟩ := (evaluates_strict hstrict).mp h
    exact Value.fresh_asTemporary _
  · have hlazy : op = .and ∨ op = .or ∨ op = .mem := by
      cases op <;> simp_all [BinaryOp.strict]
    exact fresh_of_lazy hlazy h

theorem fresh_of_filtered {base : Expr} {chain : List (FilterLink Expr)} (hchain : chain ≠ [])
    (h : Evaluates env (.filtered base chain) c v c₁) : v.Fresh := by
  rw [← List.dropLast_append_getLast hchain] at h
  obtain ⟨u, c', args, c'', -, -, rfl, -⟩ := evaluates_filtered_snoc.mp h
  exact Value.fresh_asTemporary _

theorem fresh_of_test {tester : Tester} {args : CallArgs Expr}
    (h : Evaluates env (.test e tester args) c v c₁) : v.Fresh := by
  obtain ⟨n, hrun⟩ := evaluates_iff_step.mp h
  obtain ⟨u, c', -, hrun⟩ := EvalM.bind_eq_some_iff.mp hrun
  obtain ⟨passed, -, rfl⟩ := EvalM.bind_pure_eq_some_iff.mp hrun
  exact Value.fresh_asTemporary _

theorem fresh_of_operates (he : e.operates = true) (h : Evaluates env e c v c₁) : v.Fresh := by
  cases e with
  | unary op operand =>
      obtain ⟨u, -, rfl⟩ := evaluates_unary.mp h
      exact Value.fresh_asTemporary _
  | binary op l r => exact fresh_of_binary (by simpa [Expr.operates] using he) h
  | filtered base chain => exact fresh_of_filtered (by simpa [Expr.operates] using he) h
  | test subject tester args => exact fresh_of_test h
  | _ => exact absurd he (by simp [Expr.operates])

/-! ### What the join yields

A join onto a scratch text goes on in its cell, so whatever that cell hung off stays
attached.  Nothing else can give a scratch result a parent here, which makes the
condition exact.
-/

/-- A cell that holds a text and is joined onto in place. -/
def Value.joinsInPlace (left : Value) : Bool := left.temporary && left.asText?.isSome

/-- Texts of one width make a scratch result that hangs off what the joined cell did, if it was. -/
theorem Value.concat_of_eq {w : CharWidth} {left right : Value}
    (h : (left.toOwnText w).width = (right.toOwnText w).width) :
    (left.concat w right).temporary = true ∧
      (left.concat w right).parent = if left.joinsInPlace then left.parent else none := by
  rw [concat_eq, Text.append_eq_extend h]
  exact ⟨rfl, rfl⟩

theorem Value.concat_of_ne {w : CharWidth} {left right : Value}
    (h : (left.toOwnText w).width ≠ (right.toOwnText w).width) : left.concat w right = .empty := by
  rw [concat_eq, Text.append_of_ne h]

theorem Value.fresh_concat_iff {w : CharWidth} {left right : Value} :
    (left.concat w right).Fresh ↔ (left.toOwnText w).width = (right.toOwnText w).width ∧
      ¬(left.joinsInPlace = true ∧ left.parent.isSome = true) := by
  by_cases h : (left.toOwnText w).width = (right.toOwnText w).width
  · obtain ⟨htemporary, hparent⟩ := concat_of_eq h
    by_cases hplace : left.joinsInPlace = true
    · rw [if_pos hplace] at hparent
      constructor
      · intro hfresh
        refine ⟨h, fun hbacked => ?_⟩
        rw [← hparent, hfresh.parent] at hbacked
        exact absurd hbacked.2 (by simp)
      · intro hcond
        refine ⟨htemporary, hparent.trans ?_⟩
        exact Option.not_isSome_iff_eq_none.mp fun hsome => hcond.2 ⟨hplace, hsome⟩
    · rw [if_neg hplace] at hparent
      exact ⟨fun _ => ⟨h, fun hbacked => hplace hbacked.1⟩, fun _ => ⟨htemporary, hparent⟩⟩
  · rw [concat_of_ne h]
    constructor
    · intro hfresh
      exact absurd hfresh.temporary (by simp [empty, of])
    · intro hcond
      exact absurd hcond.1 h

/--
**Operators, filters and testers yield fresh values**, and so does a join, except where
the widths of its texts differ or it joins onto a scratch result that hangs off another
value.  The first yields the unmarked empty value, and the second still hangs off it.
-/
theorem operators_yield_fresh (env : Env) (c c₁ : Context) (v : Value) :
    (∀ e : Expr, e.operates = true → Evaluates env e c v c₁ → v.Fresh) ∧
    ∀ l r, Evaluates env (.binary .concat l r) c v c₁ →
      ∃ left c' right, Evaluates env l c left c' ∧ Evaluates env r c' right c₁ ∧
        (v.Fresh ↔ (left.toOwnText env.width).width = (right.toOwnText env.width).width ∧
          ¬(left.joinsInPlace = true ∧ left.parent.isSome = true)) ∧
        ((left.toOwnText env.width).width ≠ (right.toOwnText env.width).width → v = .empty) ∧
        ((left.toOwnText env.width).width = (right.toOwnText env.width).width →
          v.temporary = true ∧ v.parent = if left.joinsInPlace then left.parent else none) := by
  refine ⟨fun e he h => fresh_of_operates he h, fun l r h => ?_⟩
  obtain ⟨left, c', right, hl, hr, rfl⟩ := evaluates_concat.mp h
  exact ⟨left, c', right, hl, hr, Value.fresh_concat_iff, Value.concat_of_ne, Value.concat_of_eq⟩

/-- Two constant texts joined. -/
def joinOf (s t : Text) : Expr := .binary .concat (.const (.ofText s)) (.const (.ofText t))

/-- An operator on a backed text, and a join of two constants: both are fresh. -/
theorem operators_yield_fresh_readBack :
    (∃ v c₁, Evaluates ⟨.narrow, .empty⟩
      (.unary .not (readBack (joinOf (.narrow "a") (.narrow "b"))))
        (.ofGlobals .nil) v c₁ ∧ v.Fresh) ∧
      ∃ v c₁, Evaluates ⟨.narrow, .empty⟩ (joinOf (.narrow "a") (.narrow "b"))
        (.ofGlobals .nil) v c₁ ∧
        v.Fresh := by
  refine ⟨?_, ?_⟩
  · have hrun : (evalTo ⟨.narrow, .empty⟩ 5
        (.unary .not (readBack (joinOf (.narrow "a") (.narrow "b"))))
        (.ofGlobals .nil)).isSome = true := by
      decide +kernel
    obtain ⟨⟨v, c₁⟩, hrun⟩ := Option.isSome_iff_exists.mp hrun
    exact ⟨v, c₁, ⟨5, hrun⟩, (operators_yield_fresh _ _ c₁ v).1 _ rfl ⟨5, hrun⟩⟩
  · have hrun : (evalTo ⟨.narrow, .empty⟩ 2 (joinOf (.narrow "a") (.narrow "b"))
        (.ofGlobals .nil)).isSome = true := by decide +kernel
    obtain ⟨⟨v, c₁⟩, hrun⟩ := Option.isSome_iff_exists.mp hrun
    obtain ⟨left, c', right, hl, hr, hfresh, -⟩ :=
      (operators_yield_fresh _ (.ofGlobals .nil) c₁ v).2 _ _ ⟨2, hrun⟩
    obtain ⟨rfl, rfl⟩ := evaluates_const.mp hl
    obtain ⟨rfl, rfl⟩ := evaluates_const.mp hr
    exact ⟨v, _, ⟨2, hrun⟩, hfresh.mpr ⟨rfl, by simp [Value.joinsInPlace, Value.ofText, Value.of]⟩⟩

/-- **A join may yield a backed text or an unmarked value**: one joins onto a text read back. -/
theorem join_may_not_be_fresh :
    (∃ v c₁, Evaluates ⟨.narrow, .empty⟩ (.binary .concat
          (readBack (joinOf (.narrow "a") (.narrow "b"))) (.const (.ofText (.narrow "c"))))
        (.ofGlobals .nil) v c₁ ∧ v.temporary = true ∧ v.parent.isSome = true) ∧
      ∃ v c₁, Evaluates ⟨.narrow, .empty⟩ (joinOf (.narrow "a") (.wide ['b']))
        (.ofGlobals .nil) v c₁ ∧
        v.temporary = false :=
  ⟨⟨_, _, ⟨5, rfl⟩, rfl, rfl⟩, _, _, ⟨2, rfl⟩, rfl⟩

end TemplateExpr
