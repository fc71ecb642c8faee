/-
Whose turn it is in a loop.

`loop.cycle` asks the innermost `loop` for its running index, counts the index around its
arguments and evaluates the one it arrives at.  So the call does what that argument does
after the callee, and nothing else.  That no other argument is evaluated cannot be told from
what the call leaves behind, since an argument may leave nothing behind.  It can be told by
watching: the call passes a check exactly if the callee, the argument whose turn it is and
the call itself pass it, and the check may refuse any other expression.
-/
import TemplateExpr.Proofs.Frame.Restores
import TemplateExpr.Proofs.Rules
import TemplateExpr.Proofs.Watch

namespace TemplateExpr

open EvalM (Answers Deepens)

/-! ### The argument whose turn it is

An index may be negative or beyond the number of arguments, and counts around in both
directions.  `HasTurn` counts in exact integers, where an index and the next round's
index for the same argument have one remainder, on either side of zero.
-/

/-- The innermost `loop` is a map whose running index reads as an integer, as zero without one. -/
inductive LoopIndex (s : Scopes) : Int64 → Prop
  | given {l index : Value} {m : MapSource Value} (hloop : s.find? "loop" = some l)
      (hmap : l.asMap? = some m) (hindex : m.get? "index0" = some index) :
      LoopIndex s (index.toInt 0)
  | missing {l : Value} {m : MapSource Value} (hloop : s.find? "loop" = some l)
      (hmap : l.asMap? = some m) (hindex : m.get? "index0" = none) : LoopIndex s 0

/-- There is no `loop`, or the innermost one is no map. -/
def OutsideLoop (s : Scopes) : Prop := ∀ l, s.find? "loop" = some l → l.asMap? = none

/-- Of choices that take turns, the one at the remainder that an integer leaves by their number. -/
def HasTurn (choices : List Expr) (k : Int) (e : Expr) : Prop :=
  ∃ i : Nat, (i : Int) = k % choices.length ∧ choices[i]? = some e

section

variable {s : Scopes} {k : Int64} {n : Int} {choices : List Expr} {e : Expr}

theorem LoopIndex.exists_map (h : LoopIndex s k) :
    ∃ m, (s.find? "loop").bind Value.asMap? = some m ∧
      ((m.get? "index0").getD .empty).toInt 0 = k := by
  cases h with
  | given hloop hmap hindex =>
      exact ⟨_, by rw [hloop, Option.bind_some, hmap], by rw [hindex, Option.getD_some]⟩
  | missing hloop hmap hindex =>
      exact ⟨_, by rw [hloop, Option.bind_some, hmap], by rw [hindex]; rfl⟩

theorem OutsideLoop.bind_eq_none (h : OutsideLoop s) : (s.find? "loop").bind Value.asMap? = none :=
  Option.bind_eq_none_iff.mpr h

/-- As long as there are choices it is always somebody's turn. -/
theorem exists_hasTurn (h : choices ≠ []) (n : Int) : ∃ e, HasTurn choices n e := by
  have hpos : 0 < (choices.length : Int) := Int.natCast_pos.mpr (List.length_pos_iff.mpr h)
  have hge := Int.emod_nonneg n (Int.ne_of_gt hpos)
  have hlt := Int.emod_lt_of_pos n hpos
  have hin : (n % choices.length).toNat < choices.length := by omega
  exact ⟨choices[(n % choices.length).toNat], _, Int.toNat_of_nonneg hge,
    List.getElem?_eq_getElem hin⟩

/-- After one round it is the same one's turn again. -/
theorem hasTurn_add_length : HasTurn choices (n + choices.length) e ↔ HasTurn choices n e := by
  unfold HasTurn
  rw [Int.add_emod_right]

theorem HasTurn.getElem? (h : HasTurn choices k.toInt e) :
    choices[cyclePosition k choices.length]? = some e := by
  obtain ⟨i, hi, he⟩ := h
  unfold cyclePosition
  rw [← hi, Int.toNat_natCast]
  exact he

end

/-! ### What a call does after its callee -/

variable {env : Env} {callee e : Expr} {f v : Value} {args : CallArgs Expr} {k : Int64}
  {c c' c₁ : Context} {ok : Expr → Value → Bool}

theorem evalCycle_of_hasTurn (sub : Evaluator) (hk : LoopIndex c.scopes k)
    (he : HasTurn args.positional k.toInt e) : evalCycle sub args c = sub.eval e c := by
  obtain ⟨m, hm, rfl⟩ := hk.exists_map
  have hlookup : EvalM.lookup "loop" c = some (c.scopes.find? "loop", c) := rfl
  unfold evalCycle
  rw [EvalM.bind_run hlookup]
  rw [hm]
  dsimp only
  rw [he.getElem?]

theorem evalCycle_of_idle (sub : Evaluator) (h : OutsideLoop c.scopes ∨ args.positional = []) :
    evalCycle sub args c = some (.empty, c) := by
  have hlookup : EvalM.lookup "loop" c = some (c.scopes.find? "loop", c) := rfl
  unfold evalCycle
  rw [EvalM.bind_run hlookup]
  rcases h with houtside | hnil
  · rw [houtside.bind_eq_none]
    rfl
  · rw [hnil]
    cases (c.scopes.find? "loop").bind Value.asMap? <;> rfl

theorem deepens_watched (ok : Expr → Value → Bool) (env : Env) (e : Expr) :
    Deepens fun n => (watched ok env n).eval e := by
  intro n m hnm c c' hc v c₁ hrun
  exact ⟨v, c₁, hc ▸ watched_mono hnm (fun _ _ hpass => hpass) hrun, rfl, rfl⟩

/-- A watched call of `loop.cycle` passes if its callee, what follows and its value pass. -/
theorem evaluatesPassing_cycle (rest : Evaluator → EvalM Value)
    (hcallee : Evaluates env callee c f c') (hf : f.asBuiltin? = some .cycle)
    (hrest : ∀ sub, evalCycle sub args c' = rest sub c')
    (hdeepens : Deepens fun n => rest (watched ok env n)) :
    EvaluatesPassing ok env (.call callee args) c v c₁ ↔
      EvaluatesPassing ok env callee c f c' ∧ Answers (fun n => rest (watched ok env n)) c' v c₁ ∧
        ok (.call callee args) v = true := by
  have hdispatch : ∀ sub, dispatch env sub f args c' = rest sub c' := by
    intro sub
    unfold dispatch
    rw [hf]
    exact hrest sub
  constructor
  · intro h
    obtain ⟨n, hrun⟩ := h
    cases n with
    | zero => exact absurd hrun (by simp [watched, EvalM.outOfDepth])
    | succ n =>
        obtain ⟨hstep, hpass⟩ := watchStep_eq_some_iff.mp hrun
        obtain ⟨f', c'', hwatched, hcall⟩ := EvalM.bind_eq_some_iff.mp hstep
        obtain ⟨rfl, rfl⟩ := (EvaluatesPassing.evaluates ⟨n, hwatched⟩).unique hcallee
        rw [hdispatch] at hcall
        exact ⟨⟨n, hwatched⟩, ⟨n, hcall⟩, hpass⟩
  · intro h
    obtain ⟨⟨n, hwatched⟩, hcall, hpass⟩ := h
    have hboth : Answers (fun n => (watched ok env n).eval callee >>= fun f =>
        dispatch env (watched ok env n) f args) c v c₁ := by
      obtain ⟨m, hcall⟩ := hcall
      refine ⟨max n m, EvalM.bind_eq_some_iff.mpr ⟨f, c', ?_, ?_⟩⟩
      · exact (deepens_watched ok env callee).run (Nat.le_max_left n m) hwatched
      · exact (hdispatch _).trans (hdeepens.run (Nat.le_max_right n m) hcall)
    obtain ⟨k, hstep⟩ := hboth
    exact ⟨k + 1, watchStep_eq_some_iff.mpr ⟨hstep, hpass⟩⟩

/-- Evaluating is passing a check that lets everything pass. -/
theorem evaluates_iff_passing {e : Expr} :
    Evaluates env e c v c₁ ↔ EvaluatesPassing (fun _ _ => true) env e c v c₁ := by
  unfold Evaluates EvaluatesPassing
  simp only [watched_always]

theorem Evaluates.scopes_eq {e : Expr} (h : Evaluates env e c v c₁) : c₁.scopes = c.scopes := by
  obtain ⟨n, hrun⟩ := h
  exact ((runs_restore env n).eval e).scopes_eq hrun

/--
**`loop.cycle` does what the argument does whose turn it is**, after the callee and in the
context that leaves: it evaluates exactly if that argument does, to the same value with the
same marks, and leaves the same context.  It passes a check exactly if the callee, that
argument and the call itself pass.  Outside a loop, and without positional arguments, it is
empty and evaluates nothing but the callee.  The turn depends on the index up to rounds only.
-/
theorem cycle_selects (hcallee : Evaluates env callee c f c') (hf : f.asBuiltin? = some .cycle)
    (args : CallArgs Expr) :
    (∀ k, LoopIndex c.scopes k → args.positional ≠ [] →
      ∃ e, HasTurn args.positional k.toInt e ∧
        (∀ v c₁, Evaluates env (.call callee args) c v c₁ ↔ Evaluates env e c' v c₁) ∧
        ∀ ok v c₁, EvaluatesPassing ok env (.call callee args) c v c₁ ↔
          EvaluatesPassing ok env callee c f c' ∧ EvaluatesPassing ok env e c' v c₁ ∧
            ok (.call callee args) v = true) ∧
    (OutsideLoop c.scopes ∨ args.positional = [] →
      (∀ v c₁, Evaluates env (.call callee args) c v c₁ ↔ v = .empty ∧ c₁ = c') ∧
      ∀ ok v c₁, EvaluatesPassing ok env (.call callee args) c v c₁ ↔
        EvaluatesPassing ok env callee c f c' ∧ (v = .empty ∧ c₁ = c') ∧
          ok (.call callee args) v = true) ∧
    ∀ (k : Int) e, HasTurn args.positional (k + args.positional.length) e ↔
      HasTurn args.positional k e := by
  have halways := evaluates_iff_passing.mp hcallee
  refine ⟨fun k hk hne => ?_, fun hidle => ?_, fun k e => hasTurn_add_length⟩
  · obtain ⟨e, he⟩ := exists_hasTurn hne k.toInt
    rw [← hcallee.scopes_eq] at hk
    have hpassing : ∀ ok v c₁, EvaluatesPassing ok env (.call callee args) c v c₁ ↔
        EvaluatesPassing ok env callee c f c' ∧ EvaluatesPassing ok env e c' v c₁ ∧
          ok (.call callee args) v = true :=
      fun ok v c₁ => evaluatesPassing_cycle (fun sub => sub.eval e) hcallee hf
        (fun sub => evalCycle_of_hasTurn sub hk he) (deepens_watched ok env e)
    refine ⟨e, he, fun v c₁ => ?_, hpassing⟩
    rw [evaluates_iff_passing, hpassing, evaluates_iff_passing]
    exact ⟨fun h => h.2.1, fun h => ⟨halways, h, rfl⟩⟩
  · rw [← hcallee.scopes_eq] at hidle
    have hpassing : ∀ ok v c₁, EvaluatesPassing ok env (.call callee args) c v c₁ ↔
        EvaluatesPassing ok env callee c f c' ∧ (v = .empty ∧ c₁ = c') ∧
          ok (.call callee args) v = true := by
      intro ok v c₁
      rw [← Answers.pure_iff]
      exact evaluatesPassing_cycle (fun _ => pure .empty) hcallee hf
        (fun sub => evalCycle_of_idle sub hidle) (.const _)
    refine ⟨fun v c₁ => ?_, hpassing⟩
    rw [evaluates_iff_passing, hpassing]
    exact ⟨fun h => h.2.1, fun h => ⟨halways, h, rfl⟩⟩

/-- A library of two functions that note which of them is called. -/
def telling : Env :=
  ⟨.narrow, ⟨#[⟨"chosen", .user, .answer (.ofInt 1)⟩, ⟨"passed over", .user, .answer (.ofInt 2)⟩]⟩⟩

/-- A loop at the smallest index there is, inside a scope that calls something else `loop`. -/
def lowestTurn : Scopes :=
  ⟨.ofList [("loop", .ofInt 5)], [.ofList [("loop", .of (.map (.owned (.ofList
    [("cycle", .of (.builtin .cycle)), ("index0", .ofInt Int64.minValue)]))))]]⟩

/-- Of three choices it is the middle one's turn, and only its call is noted. -/
theorem cycle_selects_lowest_index :
    ∃ v c₁, Evaluates telling
        (.call (.subscript (.var "loop") [.const (.ofText (.narrow "cycle"))])
          ⟨[.call (.const (.of (.function 1))) .none, .call (.const (.of (.function 0))) .none,
            .call (.const (.of (.function 1))) .none],
           .ofList [("unread", .call (.const (.of (.function 1))) .none)]⟩)
        ⟨lowestTurn, .empty, #[]⟩ v c₁ ∧
      v.data = .int 1 ∧ c₁.calls = #["chosen"] := by
  have hcallee : Evaluates telling (.subscript (.var "loop") [.const (.ofText (.narrow "cycle"))])
      ⟨lowestTurn, .empty, #[]⟩ _ ⟨lowestTurn, .empty, #[]⟩ := ⟨2, rfl⟩
  have hindex : LoopIndex lowestTurn ((Value.ofInt Int64.minValue).toInt 0) := .given rfl rfl rfl
  obtain ⟨e, ⟨i, hi, he⟩, hsame, -⟩ := (cycle_selects hcallee rfl
    ⟨[.call (.const (.of (.function 1))) .none, .call (.const (.of (.function 0))) .none,
      .call (.const (.of (.function 1))) .none],
     .ofList [("unread", .call (.const (.of (.function 1))) .none)]⟩).1 _ hindex nofun
  obtain rfl : i = 1 := Int.ofNat_inj.mp (hi.trans (by decide))
  obtain rfl := Option.some.inj he
  have hchosen : Evaluates telling (.call (.const (.of (.function 0))) .none)
      ⟨lowestTurn, .empty, #[]⟩ (.ofInt 1) ⟨lowestTurn, .empty, #["chosen"]⟩ := ⟨2, rfl⟩
  exact ⟨_, _, (hsame _ _).mpr hchosen, rfl, rfl⟩

end TemplateExpr
