/-
Indexing a range.

An index counts from the front or, if it is negative, from the end, and what it finds is
the exact element.  That holds as long as the length of the range is a word itself.  From
there on every word is the index of some element, and none of them finds it: a length
that has left the words is not compared with at all, and the index reads as nothing.
-/
import TemplateExpr.Proofs.Positions
import TemplateExpr.Proofs.Range.Call

namespace TemplateExpr

variable {env : Env} {callee index : Expr} {f : Value} {args : CallArgs Expr}
  {start? step? : Option Expr} {stop : Expr} {named : String → Bool} {c c' c₁ c₂ c₃ : Context}
  {r u v w key : Value} {a b s k : Int64}

/-- An index reads what the list of a range has at the position it means. -/
theorem evaluates_range_subscript {count : Nat}
    (hrange : Evaluates env (.call callee args) c (.of (.list (.progression count a s))) c₂)
    (hindex : Evaluates env index c₂ key c₃) (hkey : key.data = .int k) :
    Evaluates env (.subscript (.call callee args) [index]) c
      (((position? count k).bind (ListSource.progression count a s).get?).getD .empty) c₃ := by
  have hbase : Evaluates env (.subscript (.call callee args) []) c
      (.of (.list (.progression count a s))) c₂ := evaluates_subscript_nil.mpr hrange
  show Evaluates env (.subscript (.call callee args) ([] ++ [index])) c _ c₃
  refine evaluates_subscript_snoc.mpr ⟨_, c₂, key, c₃, hbase, hindex, ?_, rfl⟩
  -- A progression computes its elements, so what is read out of it does not hang off it.
  show _ = ((key.asInt?.bind (ListSource.progression count a s).index?).getD .empty)
  unfold Value.asInt?
  rw [hkey]
  rfl

/-- The element at a position of a range is the exact one. -/
theorem get?_range (a b : Int64) (hs : s ≠ 0) {i : Nat} (hi : i < rangeCount a b s) :
    ∃ e : Int64, (ListSource.progression (rangeCount a b s) a s).get? i = some (.ofInt e) ∧
      e.toInt = a.toInt + s.toInt * i :=
  (exactRange_progression a b hs).element i hi

/--
**An index reaches every element of a range whose length is a word**: from the front, from
the end if it is negative, and nothing outside.  Of a longer range every word is an index,
and each one reads as nothing.
-/
theorem range_index_reaches (hform : RangeForm args start? stop step? named)
    (hcallee : Evaluates env callee c f c') (hf : f.asBuiltin? = some .range)
    (hargs : EvaluatesEach env (rangeIntegers start? stop step?) c' [u, v, w] c₁)
    (hu : u.data = .int a) (hv : v.data = .int b) (hw : w.data = .int s) (hs : s ≠ 0)
    (hrange : Evaluates env (.call callee args) c r c₂) (hindex : Evaluates env index c₂ key c₃)
    (hkey : key.data = .int k) :
    let n : Int := max 0 ((b.toInt - a.toInt).tdiv s.toInt)
    ∃ x, Evaluates env (.subscript (.call callee args) [index]) c x c₃ ∧
      (n < 2 ^ 63 →
        (0 ≤ k.toInt → k.toInt < n → ∃ e, x = .ofInt e ∧ e.toInt = a.toInt + s.toInt * k.toInt) ∧
        (-n ≤ k.toInt → k.toInt < 0 →
          ∃ e, x = .ofInt e ∧ e.toInt = a.toInt + s.toInt * (n + k.toInt)) ∧
        (k.toInt < -n ∨ n ≤ k.toInt → x = .empty)) ∧
      (2 ^ 63 ≤ n → -n ≤ k.toInt ∧ k.toInt < n ∧ x = .empty) := by
  intro n
  have hn : n = rangeCount a b s := ((exactRange_progression a b hs).length).symm
  clear_value n
  have hrun := hform.evaluates hcallee hf hargs hu hv hw
  rw [rangeData_of_ne_zero hs] at hrun
  obtain ⟨rfl, rfl⟩ := hrun.unique hrange
  refine ⟨_, evaluates_range_subscript hrange hindex hkey, fun hword => ⟨?_, ?_, ?_⟩,
    fun hlong => ?_⟩
  · intro hge hlt
    obtain ⟨e, he, hsum⟩ := get?_range a b hs (i := k.toInt.toNat) (by omega)
    refine ⟨e, ?_, by rw [hsum, Int.toNat_of_nonneg hge]⟩
    rw [position?_front (by omega) hge (by omega), Option.bind_some, he, Option.getD_some]
  · intro hge hneg
    obtain ⟨e, he, hsum⟩ := get?_range a b hs (i := (k.toInt + rangeCount a b s).toNat) (by omega)
    refine ⟨e, ?_, by rw [hsum, Int.toNat_of_nonneg (by omega), hn, Int.add_comm k.toInt]⟩
    rw [position?_back (by omega) (by omega) hneg, Option.bind_some, he, Option.getD_some]
  · intro hout
    rw [position?_eq_none (by omega)]
    rfl
  · have hge := k.le_toInt
    have hlt := k.toInt_lt
    refine ⟨by omega, by omega, ?_⟩
    rw [position?_eq_none (by omega)]
    rfl

/-- A call of `range` with its arguments by position. -/
def rangeOf (args : List Int64) : Expr :=
  .call (.const (.of (.builtin .range))) ⟨args.map fun i => .const (.ofInt i), .nil⟩

/-- The last of the integers 10, 7 and 4. -/
theorem range_index_reaches_last :
    ∃ c₁, Evaluates ⟨.narrow, .empty⟩ (.subscript (rangeOf [10, 0, -3]) [.const (.ofInt (-1))])
      (.ofGlobals .nil) (.ofInt 4) c₁ := by
  have hconst : ∀ u c, Evaluates ⟨.narrow, .empty⟩ (.const u) c u c :=
    fun _ _ => evaluates_const.mpr ⟨rfl, rfl⟩
  have hform := RangeForm.of_positional (.const (.ofInt 10)) (.const (.ofInt 0))
    (.const (.ofInt (-3)))
  have hargs := EvaluatesEach.cons (hconst (.ofInt 10) (.ofGlobals .nil))
    (.cons (hconst (.ofInt 0) _) (.cons (hconst (.ofInt (-3)) _) .nil))
  have hcallee := hconst (.of (.builtin .range)) (.ofGlobals .nil)
  have hrange := hform.evaluates hcallee rfl hargs rfl rfl rfl
  obtain ⟨x, hrun, hcases, -⟩ := range_index_reaches hform hcallee rfl hargs rfl rfl rfl (by decide)
    hrange (hconst (.ofInt (-1)) _) rfl
  obtain ⟨e, rfl, he⟩ := (hcases (by decide)).2.1 (by decide) (by decide)
  obtain rfl : e = 4 := Int64.toInt_inj.mp (he.trans (by decide))
  exact ⟨_, hrun⟩

/-- **A range longer than a word has elements that no index reaches**, its first one among them. -/
theorem long_range_is_out_of_reach :
    ∃ l c₁ c₂, Evaluates ⟨.narrow, .empty⟩ (rangeOf [-5000000000000000000, 5000000000000000000])
        (.ofGlobals .nil) (.of (.list l)) c₁ ∧
      l.length = 10000000000000000000 ∧ l.get? 0 = some (.ofInt (-5000000000000000000)) ∧
      Evaluates ⟨.narrow, .empty⟩ (.subscript
          (rangeOf [-5000000000000000000, 5000000000000000000]) [.const (.ofInt 0)])
        (.ofGlobals .nil) .empty c₂ :=
  ⟨_, _, _, ⟨2, rfl⟩, rfl, rfl, ⟨3, rfl⟩⟩

end TemplateExpr
