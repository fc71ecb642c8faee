/-
Filters whose arguments failed to bind.

One expects a filter that misses a mandatory argument to leave the text alone.  Only
`replace` has mandatory parameters, and it is applied all the same, with what is unbound
reading as empty.  Without `old` there is nothing to search for and the text is kept, but
with `old` and without `new` the occurrences of `old` are deleted.  The text is then kept
exactly if there is nothing to delete.

The arguments are evaluated whether the filter fails or not, and they may call functions.
So the statement is about runs: which context they lead to, and when the text that comes
out is the one that went in.
-/
import TemplateExpr.Proofs.Binding.Defaults
import TemplateExpr.Proofs.Chains
import TemplateExpr.Proofs.Search.Counted

namespace TemplateExpr

open EvalM (Answers)

/-! ### Deleting occurrences

Replacing by nothing never makes a text longer and shortens it wherever an occurrence is
replaced.  So the text is kept exactly if nothing is replaced, and that can be told from
the pattern, the count and the text.
-/

namespace Search

variable {pat sub cs : List Char}

theorem replaceFrom_nil_sublist (pat : List Char) (skip : Nat) (cs : List Char) :
    (replaceFrom pat [] skip cs).Sublist cs := by
  induction cs generalizing skip with
  | nil => simp [replaceFrom]
  | cons c cs ih =>
      cases skip with
      | succ skip => exact (ih skip).cons c
      | zero =>
          rw [replaceFrom]
          by_cases hp : pat.isPrefixOf (c :: cs) = true
          · simpa [hp] using (ih (pat.length - 1)).cons c
          · simpa [hp] using ih 0

theorem replaceFirst_nil_sublist (pat : List Char) (n : Nat) (cs : List Char) :
    (replaceFirst pat [] n cs).Sublist cs := by
  induction n generalizing cs with
  | zero => simp [replaceFirst]
  | succ n ih =>
      rw [replaceFirst]
      rcases hsplit : splitFirst pat cs with _ | ⟨before, after⟩
      · simp
      · refine (ih _).trans ?_
        rw [eq_of_splitFirst hsplit]
        exact ((List.nil_sublist pat).append_left before).append_right after

/-- Deleting an occurrence makes a text shorter, and no deletion makes it longer. -/
theorem length_replace_nil_lt (hpat : pat ≠ []) {count : Int64} (hcount : ¬count < 0)
    (h : pat <:+: cs) : (replace pat [] count cs).length < cs.length := by
  obtain ⟨⟨before, after⟩, hsplit⟩ := Option.ne_none_iff_exists'.mp
    (mt splitFirst_eq_none_iff.mp (not_not.mpr h))
  have hpos : 0 < pat.length := List.length_pos_iff.mpr hpat
  have hcs : cs.length = before.length + pat.length + after.length := by
    rw [eq_of_splitFirst hsplit, List.length_append, List.length_append]
  by_cases hzero : count = 0
  · have hrest := (replaceFrom_nil_sublist pat 0 after).length_le
    rw [hzero, replace_zero hpat, replaceAll_of_some hpat hsplit, replaceAll]
    simp only [List.length_append, List.length_nil]
    omega
  · -- the first deletion already makes the text shorter, the others cannot undo that
    have hone : (1 : Int) ≤ count.toInt := by
      have hnonneg : ¬count.toInt < 0 := fun hneg => hcount (Int64.lt_iff_toInt_lt.mpr hneg)
      have hne : count.toInt ≠ 0 := fun h0 => hzero (Int64.toInt_inj.mp h0)
      omega
    obtain ⟨n, hn⟩ : ∃ n, count.toInt.toNat = n + 1 := ⟨count.toInt.toNat - 1, by omega⟩
    have hrest := (replaceFirst_nil_sublist pat n (before ++ [] ++ after)).length_le
    rw [replace_of_pos hpat [] cs (Int64.le_iff_toInt_le.mpr hone), hn, replaceFirst, hsplit]
    simp only [List.length_append, List.length_nil] at hrest ⊢
    omega

/-- Deleting leaves a text as it is exactly if there is nothing to delete. -/
theorem replace_nil_eq_self_iff {count : Int64} :
    replace pat [] count cs = cs ↔ pat = [] ∨ count < 0 ∨ ¬pat <:+: cs := by
  constructor
  · intro hkept
    by_contra hno
    rw [not_or, not_or, not_not] at hno
    obtain ⟨hpat, hcount, hinfix⟩ := hno
    exact absurd (congrArg List.length hkept)
      (Nat.ne_of_lt (length_replace_nil_lt hpat hcount hinfix))
  · intro hno
    rcases hno with rfl | hcount | hinfix
    · simp
    · simp [replace, hcount]
    · exact replace_of_not_infix hinfix [] count

end Search

/-! ### Which filters can fail -/

theorem Filter.nodup_formals (f : Filter) : (f.formals.map (·.name)).Nodup := by
  cases f <;> decide

theorem Binding.binds_eq_false_iff {ε : Type} {b : Binding ε} {f : Formal} :
    b.binds f = false ↔ Dict.get? f.name b.args = none := by
  simp [binds, Dict.contains]

/-- Only a replacement can fail to bind, and then `old` or `new` is unbound. -/
theorem Filter.unbound_of_failed {ε : Type} {f : Filter} {call : CallArgs ε}
    (hfailed : (bind f.formals call).succeeded = false) :
    f = .replace ∧ (Dict.get? "old" (bind f.formals call).args = none ∨
      Dict.get? "new" (bind f.formals call).args = none) := by
  have hunmet : (bind f.formals call).unmet f.formals ≠ [] := by
    intro hnone
    rw [(succeeded_iff f.nodup_formals).mpr hnone] at hfailed
    exact absurd hfailed (by simp)
  obtain ⟨g, hg⟩ := List.exists_mem_of_ne_nil _ hunmet
  obtain ⟨hmem, hg⟩ := List.mem_filter.mp hg
  simp only [Bool.and_eq_true, Bool.not_eq_true'] at hg
  obtain ⟨⟨-, hmandatory⟩, hunbound⟩ := hg
  rw [Binding.binds_eq_false_iff] at hunbound
  cases f with
  | replace =>
      simp only [formals, List.mem_cons, List.not_mem_nil, or_false] at hmem
      rcases hmem with rfl | rfl | rfl
      · exact ⟨rfl, Or.inl hunbound⟩
      · exact ⟨rfl, Or.inr hunbound⟩
      · simp [Formal.withFallback] at hmandatory
  | truncate =>
      simp only [formals, List.mem_cons, List.not_mem_nil, or_false] at hmem
      rcases hmem with rfl | rfl | rfl | rfl <;>
        simp [Formal.withFallback, Formal.optional] at hmandatory
  | _ => simp [formals] at hmem

/-! ### What a failed replacement yields

The three parameters are still evaluated in their order, and those without an argument
read as the empty value.  Empty code points for `new` are what makes the replacement a
deletion.
-/

/-- The text without the occurrences that a replacement would replace. -/
def Text.without (t : Text) (old count : Value) : Text :=
  t.mapChars (Search.replace old.argChars [] (count.toInt 0))

theorem Text.chars_without (t : Text) (old count : Value) :
    (t.without old count).chars = Search.replace old.argChars [] (count.toInt 0) t.chars :=
  chars_mapChars _ t

theorem Text.without_eq_self_iff {t : Text} {old count : Value} :
    t.without old count = t ↔
      old.argChars = [] ∨ count.toInt 0 < 0 ∨ ¬old.argChars <:+: t.chars := by
  rw [← Search.replace_nil_eq_self_iff, ← chars_without]
  refine ⟨congrArg chars, fun hchars => ext_chars (width_mapChars _ t) hchars⟩

theorem Binding.operand_of_unbound {b : Binding Expr} {name : String}
    (h : Dict.get? name b.args = none) (default : Value) :
    b.operand name default = .const default := by
  simp [operand, h]

variable {env : Env} {c c₁ : Context} {link : FilterLink Expr}

/-- The operands of a replacement are its three parameters, evaluated in order. -/
theorem evaluatesEach_operands_replace (hlink : link.filter = .replace) {args : List Value} :
    EvaluatesEach env link.operands c args c₁ ↔
      ∃ old new count c' c'', args = [old, new, count] ∧
        Evaluates env ((bind link.filter.formals link.args).operand "old" .empty) c old c' ∧
        Evaluates env ((bind link.filter.formals link.args).operand "new" .empty) c' new c'' ∧
        Evaluates env ((bind link.filter.formals link.args).operand "count" .empty)
          c'' count c₁ := by
  have hoperands : link.operands = ["old", "new", "count"].map fun name =>
      (bind link.filter.formals link.args).operand name .empty := by
    unfold FilterLink.operands
    rw [hlink]
    rfl
  rw [hoperands]
  simp only [List.map_cons, List.map_nil, evaluatesEach_cons, evaluatesEach_nil]
  constructor
  · intro h
    obtain ⟨old, _, c', hold,
        ⟨new, _, c'', hnew, ⟨count, _, c₂, hcount, ⟨rfl, rfl⟩, rfl⟩, rfl⟩, rfl⟩ := h
    exact ⟨old, new, count, c', c'', rfl, hold, hnew, hcount⟩
  · intro h
    obtain ⟨old, new, count, c', c'', rfl, hold, hnew, hcount⟩ := h
    exact ⟨old, _, c', hold, ⟨new, _, c'', hnew, ⟨count, _, c₁, hcount, ⟨rfl, rfl⟩, rfl⟩, rfl⟩, rfl⟩

/-- With a mandatory argument missing, replacing is deleting. -/
theorem result_of_failed (hfailed : (bind link.filter.formals link.args).succeeded = false)
    {old new count : Value} {c' : Context}
    (hargs : EvaluatesEach env link.operands c [old, new, count] c') (t : Text) :
    link.filter.result t [old, new, count] = .text (t.without old count) ∧
      (Dict.get? "old" (bind link.filter.formals link.args).args = none → old.argChars = []) := by
  obtain ⟨hlink, hunbound⟩ := Filter.unbound_of_failed hfailed
  obtain ⟨_, _, _, c₂, c₃, heq, hold, hnew, -⟩ := (evaluatesEach_operands_replace hlink).mp hargs
  simp only [List.cons.injEq, and_true] at heq
  obtain ⟨rfl, rfl, rfl⟩ := heq
  have hempty : Dict.get? "old" (bind link.filter.formals link.args).args = none →
      old.argChars = [] := by
    intro h
    rw [Binding.operand_of_unbound h, evaluates_const] at hold
    rw [hold.1]
    rfl
  refine ⟨?_, hempty⟩
  rw [hlink]
  show Payload.text _ = .text _
  unfold Text.without
  rcases hunbound with h | h
  · simp [hempty h]
  · rw [Binding.operand_of_unbound h, evaluates_const] at hnew
    rw [hnew.1]
    rfl

/--
**When a filter with missing arguments keeps the text.**  Such a filter is a replacement.
It yields something exactly if its operands evaluate, and what it yields is the text
without the occurrences of `old`, which is the text itself exactly if `old` is empty or
does not occur or the count is negative.  If `old` is among the missing it is empty.
-/
theorem failed_filter_keeps_iff (env : Env) (link : FilterLink Expr) (u : Value) (c : Context)
    (hfailed : (bind link.filter.formals link.args).succeeded = false) :
    let t := u.toOwnText env.width
    let yields := fun v c₁ =>
      Answers (fun n => link.filter.apply env (env.evaluator n) link.args u) c v c₁
    link.filter = .replace ∧
    ((∃ v c₁, yields v c₁) ↔ ∃ args c', EvaluatesEach env link.operands c args c') ∧
    ∀ v c₁, yields v c₁ → ∃ old new count c',
      EvaluatesEach env link.operands c [old, new, count] c' ∧
      v = (Value.of (.text (t.without old count))).asTemporary ∧
      c₁ = c'.keep (.text (t.without old count)) ∧
      ((v.data = .text t ∨ v.data = .empty) ↔
        old.argChars = [] ∨ count.toInt 0 < 0 ∨ ¬old.argChars <:+: t.chars) ∧
      (Dict.get? "old" (bind link.filter.formals link.args).args = none → old.argChars = []) := by
  intro t yields
  have hlink := (Filter.unbound_of_failed hfailed).1
  refine ⟨hlink, ?_, ?_⟩
  · constructor
    · intro h
      obtain ⟨v, c₁, hrun⟩ := h
      obtain ⟨args, c', hargs, -, -⟩ := answers_apply.mp hrun
      exact ⟨args, c', hargs⟩
    · intro h
      obtain ⟨args, c', hargs⟩ := h
      exact ⟨_, _, answers_apply.mpr ⟨args, c', hargs, rfl, rfl⟩⟩
  · intro v c₁ hrun
    obtain ⟨args, c', hargs, hv, hc₁⟩ := answers_apply.mp hrun
    obtain ⟨old, new, count, -, -, rfl, -⟩ := (evaluatesEach_operands_replace hlink).mp hargs
    obtain ⟨hresult, hold⟩ := result_of_failed hfailed hargs t
    rw [FilterLink.product, hresult] at hv hc₁
    refine ⟨old, new, count, c', hargs, hv, hc₁, ?_, hold⟩
    rw [← Text.without_eq_self_iff, hv]
    show (Payload.text _ = .text t ∨ Payload.text _ = .empty) ↔ _
    simp

/-- With `new` alone there is nothing to search for. -/
theorem failed_filter_keeps_banana :
    let link : FilterLink Expr := ⟨.replace, .named "new" (.const (.ofText (.narrow "o")))⟩
    let env : Env := ⟨.narrow, .empty⟩
    (bind link.filter.formals link.args).succeeded = false ∧ ∃ v c₁,
      Answers (fun n => link.filter.apply env (env.evaluator n) link.args
        (.ofText (.narrow "banana")))
        (.ofGlobals .nil) v c₁ ∧ v.data = .text (.narrow "banana") := by
  intro link env
  have hfailed : (bind link.filter.formals link.args).succeeded = false := by decide
  obtain ⟨-, hruns, hyields⟩ :=
    failed_filter_keeps_iff env link (.ofText (.narrow "banana")) (.ofGlobals .nil) hfailed
  have hargs : ∃ args c', EvaluatesEach env link.operands (.ofGlobals .nil) args c' := by
    have hconst : ∀ u, Evaluates env (.const u) (.ofGlobals .nil) u (.ofGlobals .nil) :=
      fun u => evaluates_const.mpr ⟨rfl, rfl⟩
    exact ⟨[.empty, .ofText (.narrow "o"), .ofInt 0], .ofGlobals .nil,
      .cons (hconst _) (.cons (hconst _) (.cons (hconst _) .nil))⟩
  obtain ⟨v, c₁, hrun⟩ := hruns.mpr hargs
  obtain ⟨old, new, count, c', -, hv, -, hkept, hold⟩ := hyields v c₁ hrun
  refine ⟨hfailed, v, c₁, hrun, ?_⟩
  rcases hkept.mpr (Or.inl (hold (by decide))) with htext | hempty
  · exact htext
  · rw [hv] at hempty
    exact absurd hempty (by simp [Value.asTemporary, Value.of])

/-- With `old` alone its occurrences are deleted. -/
theorem replace_without_new_deletes :
    let link : FilterLink Expr := ⟨.replace, ⟨[.const (.ofText (.narrow "a"))], .nil⟩⟩
    let env : Env := ⟨.narrow, .empty⟩
    (bind link.filter.formals link.args).missing = ["new"] ∧ ∃ v c₁,
      Answers (fun n => link.filter.apply env (env.evaluator n) link.args
        (.ofText (.narrow "banana")))
        (.ofGlobals .nil) v c₁ ∧ v.data = .text (.narrow "bnn") := by
  exact ⟨rfl, _, _, ⟨1, rfl⟩, rfl⟩

end TemplateExpr
