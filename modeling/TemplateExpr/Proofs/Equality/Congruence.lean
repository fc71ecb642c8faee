/-
Equality is an equivalence, and equal values can stand for each other.

Among plain values equality is having the same content, so it is reflexive, symmetric and
transitive.  What a condition makes of a value, how it compares with another one, and what
the membership tester answers about it or finds in it depends on the content, so equal
values can be put in each other's place there.
-/
import TemplateExpr.Proofs.Equality.Content

namespace TemplateExpr

open EvalM (Answers Deepens)

/-! ### The membership tester

Membership is asked for by an operator and by a tester, and the operator is defined by
the tester.  What the tester answers is a question about two values, once the sequence
that its argument gives has been evaluated.
-/

namespace Tester

/-- The expression for the sequence that the arguments of the membership tester give. -/
def sequence (args : CallArgs Expr) : Expr := (bind Tester.mem.formals args).operand "seq" .empty

/-- The membership tester, asked about a value in some context, answers `found`. -/
def Finds (env : Env) (args : CallArgs Expr) (v : Value) (c : Context) (found : Bool)
    (c₁ : Context) : Prop :=
  Answers (fun n => Tester.mem.apply (env.evaluator n) args v) c found c₁

variable {env : Env} {args : CallArgs Expr} {v : Value} {c c₁ c₂ : Context} {found : Bool}

theorem finds_iff : Finds env args v c found c₁ ↔
    ∃ seq, Evaluates env (sequence args) c seq c₁ ∧ found = v.memberOf seq := by
  have hvalue : ∀ seq,
      Answers (fun n => (bind Tester.mem.formals args).value (env.evaluator n) "seq") c seq c₁ ↔
        Evaluates env (sequence args) c seq c₁ := fun seq => answers_value _ "seq"
  simp only [← hvalue]
  exact Answers.map_iff

/-- Once its sequence is evaluated, the tester answers whether the value is in it. -/
theorem finds_iff_of_evaluates {seq : Value} (h : Evaluates env (sequence args) c seq c₁) :
    Finds env args v c found c₂ ↔ found = v.memberOf seq ∧ c₂ = c₁ := by
  rw [finds_iff]
  constructor
  · intro hfinds
    obtain ⟨seq', h', hfound⟩ := hfinds
    obtain ⟨rfl, rfl⟩ := h.unique h'
    exact ⟨hfound, rfl⟩
  · intro hfound
    obtain ⟨hfound, rfl⟩ := hfound
    exact ⟨seq, h, hfound⟩

theorem deepens_apply (env : Env) (args : CallArgs Expr) (v : Value) :
    Deepens fun n => Tester.mem.apply (env.evaluator n) args v :=
  (deepens_value _ "seq" env).bind fun _ => .const _

/-- The membership operator evaluates its right operand as the tester's sequence. -/
theorem evaluates_mem {l r : Expr} :
    Evaluates env (.binary .mem l r) c v c₁ ↔
      ∃ left c' right, Evaluates env l c left c' ∧ Evaluates env r c' right c₁ ∧
        v = (Value.ofBool (left.memberOf right)).asTemporary := by
  rw [evaluates_iff_step]
  simp only [evalStep, evalBinary, Value.scratch_eq]
  rw [Answers.bind_iff (deepens_evalTo env l) fun left =>
    (deepens_apply env _ left).bind fun _ => .const _]
  refine exists_congr fun left => exists_congr fun c' => ?_
  rw [Answers.map_iff, exists_and_left]
  refine and_congr_right fun _ => ?_
  constructor
  · intro h
    obtain ⟨found, hfinds, rfl⟩ := h
    obtain ⟨right, hright, rfl⟩ := finds_iff.mp hfinds
    exact ⟨right, hright, rfl⟩
  · intro h
    obtain ⟨right, hright, rfl⟩ := h
    exact ⟨_, finds_iff.mpr ⟨right, hright, rfl⟩, rfl⟩

end Tester

/-! ### Values in each other's place -/

/--
Two values that can stand for each other: as conditions, on either side of a comparison, as
what the membership tester is asked about, and as the sequence it looks in.
-/
structure Value.Interchangeable (a b : Value) : Prop where
  truthy : a.truthy = b.truthy
  order?_left : ∀ {u : Value}, u.Plain → a.order? u = b.order? u
  order?_right : ∀ {u : Value}, u.Plain → u.order? a = u.order? b
  tested : ∀ {env : Env} {args : CallArgs Expr} {c c₁ : Context} {seq : Value}, seq.Plain →
    Evaluates env (Tester.sequence args) c seq c₁ →
    ∀ found c₂, Tester.Finds env args a c found c₂ ↔ Tester.Finds env args b c found c₂
  sequence : ∀ {env env' : Env} {args args' : CallArgs Expr} {c c' c₁ c₁' : Context} {u : Value},
    u.Plain → Evaluates env (Tester.sequence args) c a c₁ →
    Evaluates env' (Tester.sequence args') c' b c₁' →
    ∀ found, Tester.Finds env args u c found c₁ ↔ Tester.Finds env' args' u c' found c₁'

theorem Value.memberOf_congr {a b u v : Value} (ha : a.Plain) (hb : b.Plain) (hu : u.Plain)
    (hv : v.Plain) (htested : a.content = b.content) (hseq : u.content = v.content) :
    a.memberOf u = b.memberOf v := by
  rw [Bool.eq_iff_iff, memberOf_iff_content ha hu, memberOf_iff_content hb hv, htested, hseq]

/-- Plain values of the same content can stand for each other. -/
theorem Value.interchangeable_of_content {a b : Value} (ha : a.Plain) (hb : b.Plain)
    (h : a.content = b.content) : a.Interchangeable b where
  truthy := by rw [truthy_eq_content ha, truthy_eq_content hb, h]
  order?_left hu := by rw [order?_eq_content ha hu, order?_eq_content hb hu, h]
  order?_right hu := by rw [order?_eq_content hu ha, order?_eq_content hu hb, h]
  tested := by
    intro env args c c₁ seq hseq hrun found c₂
    rw [Tester.finds_iff_of_evaluates hrun, Tester.finds_iff_of_evaluates hrun,
      memberOf_congr ha hb hseq hseq h rfl]
  sequence := by
    intro env env' args args' c c' c₁ c₁' u hu hrun hrun' found
    rw [Tester.finds_iff_of_evaluates hrun, Tester.finds_iff_of_evaluates hrun',
      memberOf_congr hu hu ha hb rfl h]
    simp

/--
**Equality is an equivalence and a congruence.**  Plain values are equal to themselves, equal
both ways round and equal to what their equals are equal to, and equal ones can stand for
each other.
-/
theorem equal_is_congruence (a b c : Value) (ha : a.Plain) (hb : b.Plain) (hc : c.Plain) :
    a.equal a = true ∧ (a.equal b = true → b.equal a = true) ∧
      (a.equal b = true → b.equal c = true → a.equal c = true) ∧
      (a.equal b = true → a.Interchangeable b) := by
  rw [Value.equal_iff_content ha ha, Value.equal_iff_content ha hb, Value.equal_iff_content hb ha,
    Value.equal_iff_content hb hc, Value.equal_iff_content ha hc]
  exact ⟨rfl, Eq.symm, Eq.trans, Value.interchangeable_of_content ha hb⟩

/-- A progression, a list that holds its elements and a host list, with booleans for numbers. -/
theorem equal_is_congruence_binary :
    let a : Value := .of (.list (.progression 2 0 1))
    let b : Value := .of (.list (.owned [.ofBool false, .ofInt 1]))
    let c : Value := .of (.list (.sparse [some (.ofInt 0), some (.ofBool true)]))
    a.Plain ∧ b.Plain ∧ c.Plain ∧ a.equal c = true ∧ a.Interchangeable b := by
  intro a b c
  have hbool : ∀ x, (Value.ofBool x).Plain := fun x =>
    Value.everywhere_iff.mpr ⟨rfl, by simp [Value.ofBool, Value.of, Payload.held]⟩
  have ha : a.Plain := Value.everywhere_iff.mpr ⟨rfl, by simp [a, Value.of, Payload.held]⟩
  have hb : b.Plain := by
    refine Value.everywhere_iff.mpr ⟨rfl, fun u hu => ?_⟩
    rcases (by simpa [b, Value.of, Payload.held] using hu) with rfl | rfl
    · exact hbool false
    · exact Value.Plain.ofInt 1
  have hc : c.Plain := by
    refine Value.everywhere_iff.mpr ⟨rfl, fun u hu => ?_⟩
    rcases (by simpa [c, Value.of, Payload.held] using hu) with rfl | rfl
    · exact Value.Plain.ofInt 0
    · exact hbool true
  obtain ⟨-, -, htrans, hstands⟩ := equal_is_congruence a b c ha hb hc
  exact ⟨ha, hb, hc, htrans rfl rfl, hstands rfl⟩

end TemplateExpr
