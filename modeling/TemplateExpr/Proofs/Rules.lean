/-
What an expression evaluates to, by what its operands evaluate to.

A computation that is given more and more depth answers in the end or never.  Where more
depth changes no answer, one computation followed by another answers exactly if the two
answer one after the other, so the depth they share can be forgotten.  That gives one
rule for each way an expression uses its operands; each rule goes both ways and speaks
of `Evaluates` only.

The rules are what every statement about `Evaluates` further on is taken from: a proof
reads its hypothesis through a rule, rearranges, and goes back through the rule of another
expression.  Contexts are part of each rule, so calls, slots and scopes need no treatment
of their own.
-/
import TemplateExpr.Proofs.Render.Agreement
import TemplateExpr.Proofs.Values.Reuse

namespace TemplateExpr

/-- An evaluator with some depth. -/
abbrev Env.evaluator (env : Env) (depth : Nat) : Evaluator := ⟨evalTo env depth, renderTo env depth⟩

/-- A context whose pool keeps one payload more, if the payload takes a slot. -/
def Context.keep (c : Context) (data : Payload Value) : Context :=
  { c with pool := c.pool.keep data }

theorem Context.size_keep (c : Context) {data : Payload Value} (h : data.slot?.isSome = true) :
    (c.keep data).pool.size = c.pool.size + 1 := by
  rw [show (c.keep data).pool = c.pool.keep data from rfl, Pool.size_keep, if_pos h]

/-! ### Computations that are given depth

An expression answers or runs out of depth, and how much it needs depends on everything
below it.  Once more depth changes no answer, "with some depth" is all that has to be
said: two computations in a row then need the greater of two depths, and `bind_iff` is
that argument, made once for all rules.
-/

namespace EvalM

variable {α β : Type}

theorem bind_pure_eq_some_iff {m : EvalM α} {f : α → β} {c c₁ : Context} {b : β} :
    (m >>= fun a => pure (f a)) c = some (b, c₁) ↔ ∃ a, m c = some (a, c₁) ∧ b = f a := by
  rw [← map_eq_pure_bind, map_eq_some_iff]
  exact exists_congr fun a => and_congr_right fun _ => eq_comm

/-- More depth changes no answer. -/
def Deepens (m : Nat → EvalM α) : Prop := ∀ ⦃n k : Nat⦄, n ≤ k → Simulates Eq Eq (m n) (m k)

/-- With enough depth, a computation answers and leaves a context. -/
def Answers (m : Nat → EvalM α) (c : Context) (a : α) (c₁ : Context) : Prop :=
  ∃ n, m n c = some (a, c₁)

namespace Deepens

theorem const (m : EvalM α) : Deepens fun _ => m := by
  intro n k _ c c' hc a c₁ hrun
  exact ⟨a, c₁, hc ▸ hrun, rfl, rfl⟩

theorem bind {m : Nat → EvalM α} {f : α → Nat → EvalM β} (hm : Deepens m)
    (hf : ∀ a, Deepens (f a)) : Deepens fun n => m n >>= fun a => f a n := by
  intro n k hnk
  refine Simulates.bind (hm hnk) fun a a' ha => ?_
  obtain rfl : a = a' := ha
  exact hf a hnk

theorem foldlM {m : Nat → β → α → EvalM β} (hm : ∀ b a, Deepens fun n => m n b a) (l : List α)
    (b : β) : Deepens fun n => l.foldlM (m n) b := by
  induction l generalizing b with
  | nil => exact const _
  | cons a l ih =>
      simp only [List.foldlM_cons]
      exact (hm b a).bind ih

theorem run {m : Nat → EvalM α} (hm : Deepens m) {n k : Nat} (hnk : n ≤ k) {c c₁ : Context} {a : α}
    (hrun : m n c = some (a, c₁)) : m k c = some (a, c₁) := by
  obtain ⟨a', c₁', hrun', rfl, rfl⟩ := hm hnk c c rfl a c₁ hrun
  exact hrun'

end Deepens

namespace Answers

variable {c c' c₁ : Context} {a : α} {b : β}

theorem const_iff {m : EvalM α} : Answers (fun _ => m) c a c₁ ↔ m c = some (a, c₁) :=
  ⟨fun h => h.elim fun _ hrun => hrun, fun hrun => ⟨0, hrun⟩⟩

theorem pure_iff {x : α} : Answers (fun _ => Pure.pure x) c a c₁ ↔ a = x ∧ c₁ = c := by
  rw [const_iff]
  constructor
  · intro h
    obtain ⟨rfl, rfl⟩ := Prod.mk.inj (Option.some.inj h)
    exact ⟨rfl, rfl⟩
  · intro h
    obtain ⟨rfl, rfl⟩ := h
    rfl

theorem create_iff {data : Payload Value} {v : Value} :
    Answers (fun _ => create data) c v c₁ ↔ v = .of data ∧ c₁ = c.keep data := by
  rw [const_iff]
  constructor
  · intro h
    obtain ⟨rfl, rfl⟩ := Prod.mk.inj (Option.some.inj h)
    exact ⟨rfl, rfl⟩
  · intro h
    obtain ⟨rfl, rfl⟩ := h
    rfl

/-- Two computations that answer one after the other answer together, with the larger depth. -/
theorem bind {m : Nat → EvalM α} {f : α → Nat → EvalM β} (hm : Deepens m) (hf : Deepens (f a))
    (h : Answers m c a c') (h' : Answers (f a) c' b c₁) :
    Answers (fun n => m n >>= fun a => f a n) c b c₁ := by
  obtain ⟨n, hn⟩ := h
  obtain ⟨k, hk⟩ := h'
  refine ⟨max n k, bind_eq_some_iff.mpr ⟨a, c', ?_, ?_⟩⟩
  · exact hm.run (Nat.le_max_left n k) hn
  · exact hf.run (Nat.le_max_right n k) hk

theorem of_bind {m : Nat → EvalM α} {f : α → Nat → EvalM β}
    (h : Answers (fun n => m n >>= fun a => f a n) c b c₁) :
    ∃ a c', Answers m c a c' ∧ Answers (f a) c' b c₁ := by
  obtain ⟨n, hn⟩ := h
  obtain ⟨a, c', hm, hf⟩ := bind_eq_some_iff.mp hn
  exact ⟨a, c', ⟨n, hm⟩, ⟨n, hf⟩⟩

theorem bind_iff {m : Nat → EvalM α} {f : α → Nat → EvalM β} (hm : Deepens m)
    (hf : ∀ a, Deepens (f a)) :
    Answers (fun n => m n >>= fun a => f a n) c b c₁ ↔
      ∃ a c', Answers m c a c' ∧ Answers (f a) c' b c₁ := by
  refine ⟨of_bind, fun h => ?_⟩
  obtain ⟨a, c', hrun, hrest⟩ := h
  exact bind hm (hf a) hrun hrest

theorem map_iff {m : Nat → EvalM α} {f : α → β} :
    Answers (fun n => m n >>= fun a => Pure.pure (f a)) c b c₁ ↔
      ∃ a, Answers m c a c₁ ∧ b = f a := by
  constructor
  · intro h
    obtain ⟨n, hrun⟩ := h
    obtain ⟨a, hm, hb⟩ := bind_pure_eq_some_iff.mp hrun
    exact ⟨a, ⟨n, hm⟩, hb⟩
  · intro h
    obtain ⟨a, ⟨n, hm⟩, hb⟩ := h
    exact ⟨n, bind_pure_eq_some_iff.mpr ⟨a, hm, hb⟩⟩

/-- A scratch result is made like any other value. -/
theorem temporary_iff {data : Payload Value} {v : Value} :
    Answers (fun _ => create data >>= fun u => Pure.pure u.asTemporary) c v c₁ ↔
      v = (Value.of data).asTemporary ∧ c₁ = c.keep data := by
  rw [map_iff]
  simp only [create_iff, and_assoc, exists_eq_left]
  exact and_comm

end Answers

end EvalM

open EvalM (Answers Deepens)

variable {env : Env} {c c' c₁ : Context} {v : Value}

theorem deepens_evalTo (env : Env) (e : Expr) : Deepens fun n => evalTo env n e := by
  intro n k hnk c c' hc v c₁ hrun
  exact ⟨v, c₁, hc ▸ evalTo_mono hnk hrun, rfl, rfl⟩

/-- An expression evaluates to what one level of it answers. -/
theorem evaluates_iff_step {e : Expr} :
    Evaluates env e c v c₁ ↔ Answers (fun n => evalStep env (env.evaluator n) e) c v c₁ := by
  constructor
  · intro h
    obtain ⟨n, hrun⟩ := h
    cases n with
    | zero => exact absurd hrun (by simp [evalTo, EvalM.outOfDepth])
    | succ n => exact ⟨n, hrun⟩
  · intro h
    obtain ⟨n, hrun⟩ := h
    exact ⟨n + 1, hrun⟩

theorem evaluates_const {u : Value} : Evaluates env (.const u) c v c₁ ↔ v = u ∧ c₁ = c :=
  evaluates_iff_step.trans Answers.pure_iff

/-! ### Expressions one after the other

A tuple, a dictionary, the arguments of a function that writes and the operands of a
filter are all evaluated from left to right.  `EvaluatesEach` is what they share, and
the context that goes from one expression to the next is why it is a relation of its
own.
-/

/-- Expressions evaluate one after the other, each in the context the one before left. -/
inductive EvaluatesEach (env : Env) : List Expr → Context → List Value → Context → Prop
  | nil {c : Context} : EvaluatesEach env [] c [] c
  | cons {e : Expr} {es : List Expr} {v : Value} {vs : List Value} {c c' c₁ : Context}
      (he : Evaluates env e c v c') (hes : EvaluatesEach env es c' vs c₁) :
      EvaluatesEach env (e :: es) c (v :: vs) c₁

theorem evaluatesEach_nil {vs : List Value} : EvaluatesEach env [] c vs c₁ ↔ vs = [] ∧ c₁ = c := by
  constructor
  · intro h
    cases h
    exact ⟨rfl, rfl⟩
  · intro h
    obtain ⟨rfl, rfl⟩ := h
    exact .nil

theorem evaluatesEach_cons {e : Expr} {es : List Expr} {vs : List Value} :
    EvaluatesEach env (e :: es) c vs c₁ ↔
      ∃ v us c', Evaluates env e c v c' ∧ EvaluatesEach env es c' us c₁ ∧ vs = v :: us := by
  constructor
  · intro h
    obtain _ | ⟨he, hes⟩ := h
    exact ⟨_, _, _, he, hes, rfl⟩
  · intro h
    obtain ⟨v, us, c', he, hes, rfl⟩ := h
    exact .cons he hes

/-- Two lists of expressions in one evaluate one list after the other. -/
theorem evaluatesEach_append {es es' : List Expr} {vs : List Value} :
    EvaluatesEach env (es ++ es') c vs c₁ ↔
      ∃ us us' c', EvaluatesEach env es c us c' ∧ EvaluatesEach env es' c' us' c₁ ∧
        vs = us ++ us' := by
  induction es generalizing c vs with
  | nil =>
      simp only [List.nil_append, evaluatesEach_nil]
      constructor
      · intro h
        exact ⟨[], vs, c, ⟨rfl, rfl⟩, h, rfl⟩
      · intro h
        obtain ⟨_, us', _, ⟨rfl, rfl⟩, h, rfl⟩ := h
        exact h
  | cons e es ih =>
      simp only [List.cons_append, evaluatesEach_cons, ih]
      constructor
      · intro h
        obtain ⟨v, _, c', he, ⟨us, us', c'', hes, hes', rfl⟩, rfl⟩ := h
        exact ⟨v :: us, us', c'', ⟨v, us, c', he, hes, rfl⟩, hes', rfl⟩
      · intro h
        obtain ⟨_, us', c'', ⟨v, us, c', he, hes, rfl⟩, hes', rfl⟩ := h
        exact ⟨v, us ++ us', c', he, ⟨us, us', c'', hes, hes', rfl⟩, rfl⟩

section

variable {ε : Type}

/--
What answers like an expression for each element of a list answers, over the whole list,
like the expressions one after the other.
-/
theorem answers_mapM (f : Nat → ε → EvalM Value) (expr : ε → Expr)
    (hf : ∀ x, Deepens fun n => f n x)
    (hexpr : ∀ x c v c₁, Answers (fun n => f n x) c v c₁ ↔ Evaluates env (expr x) c v c₁)
    (xs : List ε) :
    Deepens (fun n => xs.mapM (f n)) ∧ ∀ c vs c₁,
      Answers (fun n => xs.mapM (f n)) c vs c₁ ↔ EvaluatesEach env (xs.map expr) c vs c₁ := by
  induction xs with
  | nil => exact ⟨.const _, fun c vs c₁ => Answers.pure_iff.trans evaluatesEach_nil.symm⟩
  | cons x xs ih =>
      have hrest : ∀ v, Deepens fun n => xs.mapM (f n) >>= fun vs => pure (v :: vs) :=
        fun v => ih.1.bind fun vs => .const _
      simp only [List.mapM_cons, List.map_cons]
      refine ⟨(hf x).bind hrest, fun c vs c₁ => ?_⟩
      rw [Answers.bind_iff (hf x) hrest, evaluatesEach_cons]
      constructor
      · intro h
        obtain ⟨v, c', hx, h⟩ := h
        obtain ⟨us, c'', hxs, h⟩ := h.of_bind
        obtain ⟨rfl, rfl⟩ := Answers.pure_iff.mp h
        exact ⟨v, us, c', (hexpr x c v c').mp hx, (ih.2 c' us c₁).mp hxs, rfl⟩
      · intro h
        obtain ⟨v, us, c', hx, hxs, rfl⟩ := h
        refine ⟨v, c', (hexpr x c v c').mpr hx, ?_⟩
        exact Answers.bind ih.1 (.const _) ((ih.2 c' us c₁).mpr hxs)
          (Answers.pure_iff.mpr ⟨rfl, rfl⟩)

end

theorem deepens_values (env : Env) (es : List Expr) : Deepens fun n => es.mapM (evalTo env n) :=
  (answers_mapM (evalTo env) id (deepens_evalTo env) (fun _ _ _ _ => Iff.rfl) es).1

theorem answers_values {es : List Expr} {vs : List Value} :
    Answers (fun n => es.mapM (evalTo env n)) c vs c₁ ↔ EvaluatesEach env es c vs c₁ := by
  have h :=
    (answers_mapM (evalTo env) id (deepens_evalTo env) (fun _ _ _ _ => Iff.rfl) es).2 c vs c₁
  rwa [List.map_id] at h

/-- The values of entries are evaluated one after the other. -/
theorem evalEntries_eq {ε : Type} (f : ε → EvalM Value) (es : List (String × ε)) :
    evalEntries f es = (es.map (·.2)).mapM f >>= fun vs => pure ((es.map (·.1)).zip vs) := by
  unfold evalEntries
  induction es with
  | nil => rfl
  | cons e es ih =>
      rw [List.mapM_cons, ih]
      simp

/-! ### Bound parameters

What a parameter is bound to is an expression of the caller, a default or nothing at
all.  A default evaluates like a constant, and so does the value that is used where
nothing is bound.  Hence every parameter is an expression, and a filter evaluates a list
of them.
-/

/-- The expression that a bound parameter stands for, with a constant for an unbound one. -/
def Binding.operand (b : Binding Expr) (name : String) (default : Value) : Expr :=
  match Dict.get? name b.args with
  | some (.given e) => e
  | some (.fallback v) => .const v
  | none => .const default

section

variable (b : Binding Expr) (name : String)

theorem deepens_value (env : Env) : Deepens fun n => b.value (env.evaluator n) name := by
  unfold Binding.value
  rcases Dict.get? name b.args with _ | ⟨e⟩ | ⟨v⟩
  · exact .const _
  · exact deepens_evalTo env e
  · exact .const _

theorem answers_value :
    Answers (fun n => b.value (env.evaluator n) name) c v c₁ ↔
      Evaluates env (b.operand name .empty) c v c₁ := by
  unfold Binding.value Binding.operand
  rcases Dict.get? name b.args with _ | ⟨e⟩ | ⟨u⟩
  · exact Answers.pure_iff.trans evaluates_const.symm
  · exact Iff.rfl
  · exact Answers.pure_iff.trans evaluates_const.symm

end

/-- The expressions a filter of a chain evaluates, in order. -/
def FilterLink.operands (link : FilterLink Expr) : List Expr :=
  link.filter.params.map fun name => (bind link.filter.formals link.args).operand name .empty

theorem deepens_payload (env : Env) (f : Filter) (b : Binding Expr) (t : Text) :
    Deepens fun n => f.payload (env.evaluator n) b t := by
  simp only [Filter.payload_eq]
  refine Deepens.bind ?_ fun args => .const _
  exact (answers_mapM (fun n => b.value (env.evaluator n)) (b.operand · .empty)
    (deepens_value b · env) (fun name _ _ _ => answers_value b name) f.params).1

theorem answers_payload {link : FilterLink Expr} {t : Text} {data : Payload Value} :
    Answers (fun n => link.filter.payload (env.evaluator n) (bind link.filter.formals link.args) t)
        c data c₁ ↔
      ∃ args, EvaluatesEach env link.operands c args c₁ ∧ data = link.filter.result t args := by
  let b := bind link.filter.formals link.args
  have hparams := answers_mapM (fun n => b.value (env.evaluator n)) (b.operand · .empty)
    (deepens_value b · env) (fun name _ _ _ => answers_value b name) link.filter.params
  simp only [Filter.payload_eq]
  rw [Answers.map_iff]
  exact exists_congr fun args => and_congr_left fun _ => hparams.2 c args c₁

/-! ### Literals -/

theorem evaluates_tuple {items : List Expr} :
    Evaluates env (.tuple items) c v c₁ ↔
      ∃ vs c', EvaluatesEach env items c vs c' ∧ v = .of (.list (.owned vs)) ∧
        c₁ = c'.keep (.list (.owned vs)) := by
  rw [evaluates_iff_step]
  simp only [evalStep]
  rw [Answers.bind_iff (deepens_values env items) fun vs => .const _]
  simp only [answers_values, Answers.create_iff]

theorem evaluates_dict {entries : List (String × Expr)} :
    Evaluates env (.dict entries) c v c₁ ↔
      ∃ vs c', EvaluatesEach env (entries.map (·.2)) c vs c' ∧
        v = .of (.map (.owned (Dict.ofList ((entries.map (·.1)).zip vs)))) ∧
        c₁ = c'.keep (.map (.owned (Dict.ofList ((entries.map (·.1)).zip vs)))) := by
  rw [evaluates_iff_step]
  simp only [evalStep, evalEntries_eq, bind_assoc, pure_bind]
  rw [Answers.bind_iff (deepens_values env _) fun vs => .const _]
  simp only [answers_values, Answers.create_iff]

/-! ### Operators

The value of an operator may be written to the cell of its left operand.  What is in
that cell afterwards is a fresh scratch result anyway, by `Value.scratch_eq`, so the
rules need not tell the cells apart.  Only a join made in place keeps the parent of the
cell.
-/

theorem evaluates_unary {op : UnaryOp} {operand : Expr} :
    Evaluates env (.unary op operand) c v c₁ ↔
      ∃ u, Evaluates env operand c u c₁ ∧ v = (Value.of (op.apply u)).asTemporary := by
  rw [evaluates_iff_step]
  simp only [evalStep]
  exact Answers.map_iff

/-- Operators that are applied to the values of both operands. -/
def BinaryOp.strict : BinaryOp → Bool
  | .and => false
  | .or => false
  | .mem => false
  | .concat => false
  | _ => true

theorem evaluates_strict {op : BinaryOp} (hop : op.strict = true) {l r : Expr} :
    Evaluates env (.binary op l r) c v c₁ ↔
      ∃ left c' right c'', Evaluates env l c left c' ∧ Evaluates env r c' right c'' ∧
        v = (Value.of (op.apply left right)).asTemporary ∧ c₁ = c''.keep (op.apply left right) := by
  have hstep : ∀ n, evalStep env (env.evaluator n) (.binary op l r) =
      evalTo env n l >>= fun left => evalTo env n r >>= fun right =>
        EvalM.create (op.apply left right) >>= fun result => pure (left.scratch result.data) := by
    intro n
    cases op with
    | and | or | mem | concat => exact absurd hop (by decide)
    | _ => rfl
  have hresult : ∀ left right : Value,
      (EvalM.create (op.apply left right) >>= fun result => pure (left.scratch result.data)) =
        EvalM.create (op.apply left right) >>= fun result => pure result.asTemporary := by
    intro left right
    simp only [Value.scratch_eq]
    rfl
  rw [evaluates_iff_step]
  simp only [hstep, hresult]
  rw [Answers.bind_iff (deepens_evalTo env l) fun left =>
    (deepens_evalTo env r).bind fun _ => .const _]
  refine exists_congr fun left => exists_congr fun c' => ?_
  rw [Answers.bind_iff (deepens_evalTo env r) fun _ => .const _]
  simp only [Answers.temporary_iff, ← exists_and_left]
  rfl

theorem evaluates_concat {l r : Expr} :
    Evaluates env (.binary .concat l r) c v c₁ ↔
      ∃ left c' right, Evaluates env l c left c' ∧ Evaluates env r c' right c₁ ∧
        v = left.concat env.width right := by
  rw [evaluates_iff_step]
  simp only [evalStep, evalBinary]
  rw [Answers.bind_iff (deepens_evalTo env l) fun left =>
    (deepens_evalTo env r).bind fun _ => .const _]
  simp only [Answers.map_iff]
  exact exists_congr fun left => exists_congr fun c' => exists_and_left.symm

/-! ### Indices

A chain of indices is peeled from its end: the last index is read out of what the chain
before it comes to.  That is where the value is that the subscript yields.
-/

theorem answers_subscript {base key : Value} :
    Answers (fun _ => base.subscript key) c v c₁ ↔
      v = (base.reading key).1 ∧
        c₁ = if (base.reading key).2 then c.keep (base.reading key).1.data else c := by
  rw [Value.subscript_eq]
  by_cases h : (base.reading key).2 = true
  · simp only [if_pos h]
    rw [Answers.create_iff, Value.of_reading base key h]
  · simp only [if_neg h]
    exact Answers.pure_iff

/-- What is read out of a value hangs off it if the value must be kept. -/
def Value.read (base key : Value) : Value :=
  if base.extendsLifetime then (base.reading key).1.setParent base else (base.reading key).1

theorem answers_index {base : Value} {index : Expr} :
    Answers (fun n => evalIndex (env.evaluator n) base index) c v c₁ ↔
      ∃ key c', Evaluates env index c key c' ∧ v = base.read key ∧
        c₁ = if (base.reading key).2 then c'.keep (base.reading key).1.data else c' := by
  unfold evalIndex
  rw [Answers.bind_iff (deepens_evalTo env index) fun key => .const _]
  refine exists_congr fun key => exists_congr fun c' => and_congr_right fun _ => ?_
  rw [Answers.map_iff]
  simp only [answers_subscript]
  constructor
  · intro h
    obtain ⟨u, ⟨rfl, hc₁⟩, rfl⟩ := h
    exact ⟨rfl, hc₁⟩
  · intro h
    obtain ⟨rfl, hc₁⟩ := h
    exact ⟨_, ⟨rfl, hc₁⟩, rfl⟩

theorem deepens_index (env : Env) (base : Value) (index : Expr) :
    Deepens fun n => evalIndex (env.evaluator n) base index :=
  (deepens_evalTo env index).bind fun _ => .const _

theorem evaluates_subscript_nil {base : Expr} :
    Evaluates env (.subscript base []) c v c₁ ↔ Evaluates env base c v c₁ := by
  rw [evaluates_iff_step]
  simp only [evalStep, List.foldlM_nil, bind_pure]
  exact Iff.rfl

/-- One index more reads the value that the indices before it lead to. -/
theorem evaluates_subscript_snoc {base index : Expr} {indices : List Expr} :
    Evaluates env (.subscript base (indices ++ [index])) c v c₁ ↔
      ∃ cur c' key c'', Evaluates env (.subscript base indices) c cur c' ∧
        Evaluates env index c' key c'' ∧ v = cur.read key ∧
        c₁ = if (cur.reading key).2 then c''.keep (cur.reading key).1.data else c'' := by
  have hindices : Deepens fun n =>
      evalTo env n base >>= indices.foldlM (evalIndex (env.evaluator n)) :=
    (deepens_evalTo env base).bind fun u => .foldlM (deepens_index env) indices u
  have hsnoc : ∀ sub : Evaluator, evalStep env sub (.subscript base (indices ++ [index])) =
      (sub.eval base >>= indices.foldlM (evalIndex sub)) >>=
        fun cur => evalIndex sub cur index := by
    intro sub
    simp [evalStep, List.foldlM_append]
  rw [evaluates_iff_step]
  simp only [hsnoc, evaluates_iff_step (e := .subscript base indices)]
  rw [Answers.bind_iff hindices fun cur => deepens_index env cur index]
  simp only [answers_index, ← exists_and_left]
  rfl

end TemplateExpr
