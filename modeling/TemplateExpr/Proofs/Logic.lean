/-
The logical operators as a Boolean algebra with effects.

An operand of a logical operator only matters by whether it counts as true.  So an
expression is split into two relations between contexts, one for each truth its value may
count as, and a logical operator is put together from those of its operands: where the left
one settles the result there is nothing else to do, and otherwise the right one goes on from
the context that the left one leaves.  `and` and `or` are one operator up to the truth that
settles it, and `not` swaps the two truths, so De Morgan's laws and associativity are laws
of these relations.  What the operators yield is a scratch result that is determined by its
truth, so the laws hold for values, with all effects, too.
-/
import TemplateExpr.Proofs.Rules

namespace TemplateExpr

open EvalM (Answers Deepens)

/-- A truth value as operators yield it. -/
def Value.verdict (b : Bool) : Value := (ofBool b).asTemporary

@[simp] theorem Value.truthy_verdict (b : Bool) : (verdict b).truthy = b := rfl

/-- The operator that yields `d` as soon as its left operand counts as `d`. -/
def BinaryOp.settledBy : (d : Bool) → BinaryOp
  | true => .or
  | false => .and

/-- An expression evaluates to a value that counts as `x`. -/
def CountsAs (env : Env) (e : Expr) (c : Context) (x : Bool) (c₁ : Context) : Prop :=
  ∃ v, Evaluates env e c v c₁ ∧ v.truthy = x

variable {env : Env} {a b e e' l r : Expr} {c c₁ : Context} {v : Value} {d x : Bool}

/-! ### What the operators evaluate to

`and` and `or` are the cases of one operator, given by the truth that settles it: false
settles `and`, true settles `or`.  Everything is proved of that operator once.
-/

theorem evaluates_not :
    Evaluates env (.unary .not e) c v c₁ ↔ ∃ x, CountsAs env e c x c₁ ∧ v = .verdict (!x) := by
  rw [evaluates_unary]
  constructor
  · intro h
    obtain ⟨u, hu, rfl⟩ := h
    exact ⟨u.truthy, ⟨u, hu, rfl⟩, rfl⟩
  · intro h
    obtain ⟨_, ⟨u, hu, rfl⟩, rfl⟩ := h
    exact ⟨u, hu, rfl⟩

/-- The truth of the result, once the left operand has a value. -/
private def evalRest (sub : Evaluator) (d : Bool) (r : Expr) (left : Value) : EvalM Bool :=
  if left.truthy = d then pure d else evalTruth sub r

private theorem evalBinary_settledBy (env : Env) (sub : Evaluator) (d : Bool) (l r : Expr) :
    evalBinary env sub (.settledBy d) l r =
      sub.eval l >>= fun left => evalRest sub d r left >>= fun x => pure (.verdict x) := by
  unfold evalBinary evalRest
  refine congrArg (sub.eval l >>= ·) (funext fun left => ?_)
  cases d <;> cases left.truthy <;> simp [BinaryOp.settledBy, Value.scratch_eq] <;> rfl

private theorem answers_rest (env : Env) (d : Bool) (r : Expr) (left : Value) :
    (Deepens fun n => evalRest (env.evaluator n) d r left) ∧ ∀ c x c₁,
      Answers (fun n => evalRest (env.evaluator n) d r left) c x c₁ ↔
        if left.truthy = d then x = d ∧ c₁ = c else CountsAs env r c x c₁ := by
  unfold evalRest
  by_cases hd : left.truthy = d
  · simp only [if_pos hd]
    exact ⟨.const _, fun c x c₁ => Answers.pure_iff⟩
  · simp only [if_neg hd]
    refine ⟨(deepens_evalTo env r).bind fun _ => .const _, fun c x c₁ => ?_⟩
    refine Answers.map_iff.trans (exists_congr fun u => ?_)
    exact and_congr_right fun _ => eq_comm

/-- The right operand is evaluated after the left exactly if that does not settle the result. -/
theorem evaluates_settledBy :
    Evaluates env (.binary (.settledBy d) l r) c v c₁ ↔
      ∃ left c', Evaluates env l c left c' ∧
        if left.truthy = d then v = .verdict d ∧ c₁ = c'
        else ∃ right, Evaluates env r c' right c₁ ∧ v = .verdict right.truthy := by
  rw [evaluates_iff_step]
  simp only [evalStep, evalBinary_settledBy]
  rw [Answers.bind_iff (deepens_evalTo env l) fun left =>
    (answers_rest env d r left).1.bind fun _ => .const _]
  refine exists_congr fun left => exists_congr fun c' => and_congr_right fun _ => ?_
  rw [Answers.map_iff]
  simp only [(answers_rest env d r left).2]
  by_cases hd : left.truthy = d
  · simp only [if_pos hd]
    constructor
    · intro h
      obtain ⟨_, ⟨rfl, hc₁⟩, hv⟩ := h
      exact ⟨hv, hc₁⟩
    · intro h
      exact ⟨d, ⟨rfl, h.2⟩, h.1⟩
  · simp only [if_neg hd]
    constructor
    · intro h
      obtain ⟨_, ⟨right, hright, rfl⟩, hv⟩ := h
      exact ⟨right, hright, hv⟩
    · intro h
      obtain ⟨right, hright, hv⟩ := h
      exact ⟨_, ⟨right, hright, rfl⟩, hv⟩

/-! ### What the operators count as -/

theorem countsAs_not : CountsAs env (.unary .not e) c x c₁ ↔ CountsAs env e c (!x) c₁ := by
  unfold CountsAs
  simp only [evaluates_not]
  constructor
  · intro h
    obtain ⟨_, ⟨y, he, rfl⟩, rfl⟩ := h
    rw [Value.truthy_verdict, Bool.not_not]
    exact he
  · intro h
    exact ⟨_, ⟨!x, h, rfl⟩, by rw [Value.truthy_verdict, Bool.not_not]⟩

/-- A logical operator joins the relations of its operands. -/
theorem countsAs_settledBy :
    CountsAs env (.binary (.settledBy d) l r) c x c₁ ↔
      CountsAs env l c d c₁ ∧ x = d ∨ ∃ c', CountsAs env l c (!d) c' ∧ CountsAs env r c' x c₁ := by
  constructor
  · intro h
    obtain ⟨v, hrun, rfl⟩ := h
    obtain ⟨left, c', hl, hrest⟩ := evaluates_settledBy.mp hrun
    by_cases hd : left.truthy = d
    · rw [if_pos hd] at hrest
      obtain ⟨rfl, rfl⟩ := hrest
      exact .inl ⟨⟨left, hl, hd⟩, rfl⟩
    · rw [if_neg hd] at hrest
      obtain ⟨right, hr, rfl⟩ := hrest
      exact .inr ⟨c', ⟨left, hl, Bool.eq_not_of_ne hd⟩, right, hr, rfl⟩
  · intro h
    rcases h with ⟨⟨left, hl, hd⟩, rfl⟩ | ⟨c', ⟨left, hl, hd⟩, right, hr, rfl⟩
    · refine ⟨.verdict x, evaluates_settledBy.mpr ⟨left, c₁, hl, ?_⟩, rfl⟩
      rw [if_pos hd]
      exact ⟨rfl, rfl⟩
    · refine ⟨.verdict right.truthy, evaluates_settledBy.mpr ⟨left, c', hl, ?_⟩, rfl⟩
      rw [if_neg (Bool.eq_not.mp hd)]
      exact ⟨right, hr, rfl⟩

/-! ### The laws

Both sides of a law may call functions and fill the pool, and they have to do so in the
same order.  That is what a relation between contexts keeps, and a truth table would
not.
-/

/-- `not` turns an operator into the one that the other truth settles. -/
theorem countsAs_deMorgan :
    CountsAs env (.unary .not (.binary (.settledBy d) a b)) c x c₁ ↔
      CountsAs env (.binary (.settledBy !d) (.unary .not a) (.unary .not b)) c x c₁ := by
  simp only [countsAs_not, countsAs_settledBy, Bool.not_not]
  refine or_congr (and_congr_right fun _ => ?_) Iff.rfl
  exact Bool.not_eq_eq_eq_not

/-- Either grouping evaluates the operands up to the first one that counts as `d`. -/
theorem countsAs_assoc :
    CountsAs env (.binary (.settledBy d) (.binary (.settledBy d) a b) e) c x c₁ ↔
      CountsAs env (.binary (.settledBy d) a (.binary (.settledBy d) b e)) c x c₁ := by
  simp only [countsAs_settledBy]
  constructor
  · intro h
    rcases h with ⟨⟨ha, -⟩ | ⟨c', ha, hb⟩, hx⟩ | ⟨c', ⟨-, hd⟩ | ⟨c'', ha, hb⟩, he⟩
    · exact .inl ⟨ha, hx⟩
    · exact .inr ⟨c', ha, .inl ⟨hb, hx⟩⟩
    · exact absurd rfl (Bool.eq_not.mp hd.symm)
    · exact .inr ⟨c'', ha, .inr ⟨c', hb, he⟩⟩
  · intro h
    rcases h with ⟨ha, hx⟩ | ⟨c', ha, ⟨hb, hx⟩ | ⟨c'', hb, he⟩⟩
    · exact .inl ⟨.inl ⟨ha, trivial⟩, hx⟩
    · exact .inl ⟨.inr ⟨c', ha, hb⟩, hx⟩
    · exact .inr ⟨c'', .inr ⟨c', ha, hb⟩, he⟩

/-! ### Values determined by their truth -/

/-- A negation, or one of the two logical operators. -/
inductive Expr.IsLogical : Expr → Prop
  | not (e : Expr) : IsLogical (.unary .not e)
  | binary (d : Bool) (l r : Expr) : IsLogical (.binary (.settledBy d) l r)

theorem Expr.IsLogical.eq_verdict (h : e.IsLogical) (hrun : Evaluates env e c v c₁) :
    v = .verdict v.truthy := by
  cases h with
  | not e =>
      obtain ⟨x, -, rfl⟩ := evaluates_not.mp hrun
      rfl
  | binary d l r =>
      obtain ⟨left, c', -, hrest⟩ := evaluates_settledBy.mp hrun
      split at hrest
      · rw [hrest.1]
        rfl
      · obtain ⟨right, -, rfl⟩ := hrest
        rfl

theorem Expr.IsLogical.evaluates_iff (h : e.IsLogical) :
    Evaluates env e c v c₁ ↔ ∃ x, CountsAs env e c x c₁ ∧ v = .verdict x := by
  constructor
  · intro hrun
    exact ⟨v.truthy, ⟨v, hrun, rfl⟩, h.eq_verdict hrun⟩
  · intro hcounts
    obtain ⟨_, ⟨u, hrun, rfl⟩, rfl⟩ := hcounts
    rw [← h.eq_verdict hrun]
    exact hrun

/-- Operators that count as the same truths evaluate to the same values. -/
theorem Expr.IsLogical.evaluates_congr (h : e.IsLogical) (h' : e'.IsLogical)
    (hcounts : ∀ x, CountsAs env e c x c₁ ↔ CountsAs env e' c x c₁) :
    Evaluates env e c v c₁ ↔ Evaluates env e' c v c₁ := by
  rw [h.evaluates_iff, h'.evaluates_iff]
  simp only [hcounts]

/--
**The logical operators obey De Morgan's laws and are associative, with all effects**: either
side evaluates exactly if the other does, to the same value, and leaves the same context.
The right operand of `and` or `or` is evaluated once, in the context that the left one
leaves, if the truth of the left operand leaves the result open, and not at all otherwise.
-/
theorem logic_respects_effects (env : Env) (a b e : Expr) (c c₁ : Context) (v : Value) :
    (Evaluates env (.unary .not (.binary .and a b)) c v c₁ ↔
      Evaluates env (.binary .or (.unary .not a) (.unary .not b)) c v c₁) ∧
    (Evaluates env (.unary .not (.binary .or a b)) c v c₁ ↔
      Evaluates env (.binary .and (.unary .not a) (.unary .not b)) c v c₁) ∧
    (Evaluates env (.binary .and (.binary .and a b) e) c v c₁ ↔
      Evaluates env (.binary .and a (.binary .and b e)) c v c₁) ∧
    (Evaluates env (.binary .or (.binary .or a b) e) c v c₁ ↔
      Evaluates env (.binary .or a (.binary .or b e)) c v c₁) ∧
    (∀ l r, Evaluates env (.binary .and l r) c v c₁ ↔
      ∃ left c', Evaluates env l c left c' ∧
        if left.truthy = false then v = .verdict false ∧ c₁ = c'
        else ∃ right, Evaluates env r c' right c₁ ∧ v = .verdict right.truthy) ∧
    ∀ l r, Evaluates env (.binary .or l r) c v c₁ ↔
      ∃ left c', Evaluates env l c left c' ∧
        if left.truthy = true then v = .verdict true ∧ c₁ = c'
        else ∃ right, Evaluates env r c' right c₁ ∧ v = .verdict right.truthy := by
  have hmorgan : ∀ d, Evaluates env (.unary .not (.binary (.settledBy d) a b)) c v c₁ ↔
      Evaluates env (.binary (.settledBy !d) (.unary .not a) (.unary .not b)) c v c₁ :=
    fun d => (Expr.IsLogical.not _).evaluates_congr (.binary _ _ _) fun _ => countsAs_deMorgan
  have hassoc : ∀ d, Evaluates env (.binary (.settledBy d) (.binary (.settledBy d) a b) e) c v c₁ ↔
      Evaluates env (.binary (.settledBy d) a (.binary (.settledBy d) b e)) c v c₁ :=
    fun d => (Expr.IsLogical.binary _ _ _).evaluates_congr (.binary _ _ _) fun _ => countsAs_assoc
  refine ⟨hmorgan false, hmorgan true, hassoc false, hassoc true, fun l r => ?_, fun l r => ?_⟩
  · exact evaluates_settledBy (d := false)
  · exact evaluates_settledBy (d := true)

end TemplateExpr
