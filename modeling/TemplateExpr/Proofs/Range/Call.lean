/-
What a call of `range` yields.

However it divides its arguments into positional ones and keywords, a call of `range`
evaluates them in the order of the parameters and makes one list of what they are, which
takes one slot whatever its length.  A step of zero and a missing stop make none.
-/
import TemplateExpr.Proofs.Range.Exact
import TemplateExpr.Proofs.Range.Forms

namespace TemplateExpr

theorem Value.toInt_of_data {v : Value} {i : Int64} (h : v.data = .int i) (default : Int64) :
    v.toInt default = i := by
  unfold toInt
  rw [h]

variable {env : Env} {callee : Expr} {f : Value} {args : CallArgs Expr} {start? step? : Option Expr}
  {stop : Expr} {named : String → Bool} {c c' c₁ : Context} {u v w : Value} {a b s : Int64}

/-- The expressions for the three integers of a range, the usual ones where it says nothing. -/
def rangeIntegers (start? : Option Expr) (stop : Expr) (step? : Option Expr) : List Expr :=
  [start?.getD (.const (.ofInt 0)), stop, step?.getD (.const (.ofInt 1))]

/-- A missing start reads as the zero it stands for. -/
theorem RangeForm.evaluatesEach (h : RangeForm args start? stop step? named)
    (hargs : EvaluatesEach env (rangeIntegers start? stop step?) c [u, v, w] c₁)
    (hu : u.data = .int a) :
    ∃ u', EvaluatesEach env (rangeOperands args) c [u', v, w] c₁ ∧ u'.toInt 0 = a := by
  rw [h.operands.2]
  cases start? with
  | some start => exact ⟨u, hargs, Value.toInt_of_data hu 0⟩
  | none =>
      obtain ⟨u', us, c', hu', hrest, hcons⟩ := evaluatesEach_cons.mp hargs
      obtain ⟨rfl, rfl⟩ := List.cons.inj hcons
      obtain ⟨rfl, rfl⟩ := evaluates_const.mp hu'
      obtain rfl : 0 = a := Payload.int.inj hu
      exact ⟨.empty, .cons (evaluates_const.mpr ⟨rfl, rfl⟩) hrest, rfl⟩

/-- A call of `range` makes its payload of the three integers it is given. -/
theorem RangeForm.evaluates (h : RangeForm args start? stop step? named)
    (hcallee : Evaluates env callee c f c') (hf : f.asBuiltin? = some .range)
    (hargs : EvaluatesEach env (rangeIntegers start? stop step?) c' [u, v, w] c₁)
    (hu : u.data = .int a) (hv : v.data = .int b) (hw : w.data = .int s) :
    Evaluates env (.call callee args) c (.of (rangeData a b s)) (c₁.keep (rangeData a b s)) := by
  obtain ⟨u', hoperands, hu'⟩ := h.evaluatesEach hargs hu
  refine (evaluates_call_range hcallee hf h.operands.1).mpr ⟨u', v, w, c₁, hoperands, ?_⟩
  rw [hu', Value.toInt_of_data hv, Value.toInt_of_data hw]
  exact ⟨rfl, rfl⟩

theorem rangeData_of_ne_zero (hs : s ≠ 0) (a b : Int64) :
    rangeData a b s = .list (.progression (rangeCount a b s) a s) := if_neg (by simp [hs])

/--
**A range is exact.**  Whichever of its arguments a call names, if they evaluate to three
integers and the step is not zero, the call evaluates to a list that holds exactly the
integers from the start toward the stop, and the list takes one slot in the pool.  With a
step of zero it evaluates to nothing and takes none, and so it does without a stop.
-/
theorem range_is_exact (hcallee : Evaluates env callee c f c') (hf : f.asBuiltin? = some .range)
    (args : CallArgs Expr) :
    (∀ start? stop step? named, RangeForm args start? stop step? named →
      ∀ u v w c₁ a b s, EvaluatesEach env (rangeIntegers start? stop step?) c' [u, v, w] c₁ →
        u.data = .int a → v.data = .int b → w.data = .int s →
        (s ≠ 0 → ∃ l, Evaluates env (.call callee args) c (.of (.list l)) (c₁.keep (.list l)) ∧
          ExactRange a b s l ∧ (c₁.keep (.list l)).pool.size = c₁.pool.size + 1) ∧
        (s = 0 → Evaluates env (.call callee args) c .empty c₁)) ∧
    (args.positional = [] → Dict.get? "stop" args.keyword = none →
      Evaluates env (.call callee args) c .empty c') := by
  refine ⟨?_, ?_⟩
  · intro start? stop step? named hform u v w c₁ a b s hargs hu hv hw
    have hrun := hform.evaluates hcallee hf hargs hu hv hw
    refine ⟨fun hs => ?_, fun hs => ?_⟩
    · rw [rangeData_of_ne_zero hs] at hrun
      exact ⟨_, hrun, exactRange_progression a b hs, Context.size_keep c₁ rfl⟩
    · subst hs
      exact hrun
  · intro hpositional hstop
    exact (evaluates_call_range_unbound hcallee hf (range_unbound hpositional hstop)).mpr ⟨rfl, rfl⟩

/-- From the largest word down to the smallest, which is given by keyword. -/
def longestRange : CallArgs Expr :=
  ⟨[.const (.ofInt 9223372036854775807), .const (.ofInt (-1))],
    .ofList [("stop", .const (.ofInt (-9223372036854775808)))]⟩

theorem longestRange_form : RangeForm longestRange (some (.const (.ofInt 9223372036854775807)))
    (.const (.ofInt (-9223372036854775808))) (some (.const (.ofInt (-1)))) (· == "stop") where
  keyword := by
    intro f hf
    simp only [rangeFormals, List.mem_cons, List.not_mem_nil, or_false] at hf
    rcases hf with rfl | rfl | rfl <;> rfl
  positional := rfl
  step := fun _ => .inl rfl

/-- The longest range has more elements than a signed word counts, and its last one is exact. -/
theorem range_is_exact_longest :
    ∃ l c₁, Evaluates ⟨.narrow, .empty⟩ (.call (.const (.of (.builtin .range))) longestRange)
        (.ofGlobals .nil) (.of (.list l)) c₁ ∧
      l.length = 18446744073709551615 ∧
      l.get? 18446744073709551614 = some (.ofInt (-9223372036854775807)) ∧ c₁.pool.size = 1 := by
  have hconst : ∀ u, Evaluates ⟨.narrow, .empty⟩ (.const u) (.ofGlobals .nil) u (.ofGlobals .nil) :=
    fun _ => evaluates_const.mpr ⟨rfl, rfl⟩
  obtain ⟨hforms, -⟩ := range_is_exact (hconst (.of (.builtin .range))) rfl longestRange
  have hargs := EvaluatesEach.cons (hconst (.ofInt 9223372036854775807))
    (.cons (hconst (.ofInt (-9223372036854775808))) (.cons (hconst (.ofInt (-1))) .nil))
  obtain ⟨l, hrun, hexact, hsize⟩ :=
    (hforms _ _ _ _ longestRange_form _ _ _ _ _ _ _ hargs rfl rfl rfl).1 (by decide)
  have hlength : l.length = 18446744073709551615 := by
    have hquot : ((-9223372036854775808 : Int64).toInt - (9223372036854775807 : Int64).toInt).tdiv
        (-1 : Int64).toInt = 18446744073709551615 := by decide
    have hcount := hexact.length
    omega
  obtain ⟨x, hx, hsum⟩ := hexact.element 18446744073709551614 (by omega)
  obtain rfl : x = -9223372036854775807 := Int64.toInt_inj.mp (hsum.trans (by decide))
  exact ⟨l, _, hrun, hlength, hx, hsize⟩

end TemplateExpr
