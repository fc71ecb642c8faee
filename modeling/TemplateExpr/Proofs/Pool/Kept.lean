/-
Every payload that an expression builds is kept in the pool, except a joined text.

An expression builds a payload of its own when it is a literal, a chain of filters, an
operator applied to two values (a sum or a product, if the payload is to take a slot), a
join, an index into a text, or a call of `range` or of a function that writes.  `Makes`
says for each of them what it builds out of the values of its operands, and in which
context these leave it.  All of them put what they have built into the pool, one slot
each, except the join: it writes to the cell of its left operand or to a fresh one, and
neither is known to the pool.
-/
import TemplateExpr.Proofs.Calls
import TemplateExpr.Proofs.Chains

namespace TemplateExpr

/-- An expression that joins two texts. -/
def Expr.joins : Expr → Bool
  | .binary .concat _ _ => true
  | _ => false

/-- Started in a context, an expression builds its payload itself. -/
inductive Builds (env : Env) (c : Context) : Expr → Prop
  | tuple {items : List Expr} : Builds env c (.tuple items)
  | dict {entries : List (String × Expr)} : Builds env c (.dict entries)
  | filtered {base : Expr} {chain : List (FilterLink Expr)} (hchain : chain ≠ []) :
      Builds env c (.filtered base chain)
  | operator {op : BinaryOp} {l r : Expr} (hop : op.strict = true) : Builds env c (.binary op l r)
  | join {l r : Expr} : Builds env c (.binary .concat l r)
  /-- The last index reads a text. -/
  | character {base index : Expr} {indices before : List Expr} {cur : Value} {t : Text}
      {c' : Context} (hindices : indices = before ++ [index])
      (hcur : Evaluates env (.subscript base before) c cur c') (ht : cur.data = .text t) :
      Builds env c (.subscript base indices)
  | range {callee : Expr} {args : CallArgs Expr} {f : Value} {c' : Context}
      (hcallee : Evaluates env callee c f c') (hf : f.asBuiltin? = some .range) :
      Builds env c (.call callee args)
  /-- A function that writes is called for its value. -/
  | written {callee : Expr} {args : CallArgs Expr} {f : Value} {d : FunctionDef} {c' : Context}
      (hcallee : Evaluates env callee c f c') (hd : env.library.resolve f = some d)
      (hcallable : d.origin.callable = true) (hemits : d.emits = true) :
      Builds env c (.call callee args)

/--
Started in a context, an expression builds a payload once its operands and arguments are
evaluated, which leaves the last context.
-/
inductive Makes (env : Env) (c : Context) : Expr → Payload Value → Context → Prop
  | tuple {items : List Expr} {vs : List Value} {c' : Context}
      (hitems : EvaluatesEach env items c vs c') :
      Makes env c (.tuple items) (.list (.owned vs)) c'
  | dict {entries : List (String × Expr)} {vs : List Value} {c' : Context}
      (hentries : EvaluatesEach env (entries.map (·.2)) c vs c') :
      Makes env c (.dict entries) (.map (.owned (Dict.ofList ((entries.map (·.1)).zip vs)))) c'
  /-- The last filter of a chain sees what the chain before it yields. -/
  | filtered {base : Expr} {chain before : List (FilterLink Expr)} {link : FilterLink Expr}
      {v : Value} {args : List Value} {c₀ c' : Context} (hchain : chain = before ++ [link])
      (hbefore : Evaluates env (.filtered base before) c v c₀)
      (hargs : EvaluatesEach env link.operands c₀ args c') :
      Makes env c (.filtered base chain) (link.filter.result (v.toOwnText env.width) args) c'
  | operator {op : BinaryOp} {l r : Expr} {left right : Value} {c₀ c' : Context}
      (hop : op.strict = true) (hl : Evaluates env l c left c₀)
      (hr : Evaluates env r c₀ right c') : Makes env c (.binary op l r) (op.apply left right) c'
  | join {l r : Expr} {left right : Value} {c₀ c' : Context} (hl : Evaluates env l c left c₀)
      (hr : Evaluates env r c₀ right c') :
      Makes env c (.binary .concat l r) (left.concat env.width right).data c'
  | character {base index : Expr} {indices before : List Expr} {cur key : Value} {t ch : Text}
      {c₀ c' : Context} (hindices : indices = before ++ [index])
      (hcur : Evaluates env (.subscript base before) c cur c₀) (ht : cur.data = .text t)
      (hkey : Evaluates env index c₀ key c') (hch : key.asInt?.bind t.index? = some ch) :
      Makes env c (.subscript base indices) (.text ch) c'
  | range {callee : Expr} {args : CallArgs Expr} {f start stop step : Value} {c₀ c' : Context}
      (hcallee : Evaluates env callee c f c₀) (hf : f.asBuiltin? = some .range)
      (hbinds : (bind rangeFormals args).succeeded = true)
      (hargs : EvaluatesEach env (rangeOperands args) c₀ [start, stop, step] c') :
      Makes env c (.call callee args) (rangeData (start.toInt 0) (stop.toInt 0) (step.toInt 0)) c'
  /-- A function that writes builds what its call renders as. -/
  | written {callee : Expr} {args : CallArgs Expr} {f : Value} {d : FunctionDef} {t : Text}
      {c₀ c' : Context} (hcallee : Evaluates env callee c f c₀)
        (hd : env.library.resolve f = some d)
      (hcallable : d.origin.callable = true) (hemits : d.emits = true)
      (hwrites : Renders env (.call callee args) (.empty env.width) c t c') :
      Makes env c (.call callee args) (.text t) c'

/-- What is left of a context once an expression has built its payload. -/
def Expr.settle (e : Expr) (c : Context) (data : Payload Value) : Context :=
  if e.joins then c else c.keep data

variable {env : Env} {c c' c₁ : Context} {e : Expr} {data : Payload Value}

theorem Expr.settle_strict {op : BinaryOp} (hop : op.strict = true) (l r : Expr) :
    (Expr.binary op l r).settle c data = c.keep data := by
  cases op with
  | and | or | mem | concat => exact absurd hop (by decide)
  | _ => rfl

/-! ### Reading a text -/

theorem Value.data_read (base key : Value) : (base.read key).data = (base.reading key).1.data := by
  unfold read
  split <;> rfl

/-- An index into a text reads a new text of one character, or nothing. -/
theorem Value.reading_text {base : Value} {t : Text} (ht : base.data = .text t) (key : Value) :
    base.reading key =
      (key.asInt?.bind t.index?).elim (.empty, false) fun ch => (.ofText ch, true) := by
  unfold reading
  rw [ht]
  dsimp only
  cases key.asInt?.bind t.index? <;> rfl

/-! ### What is built is the value -/

/-- An expression whose operands evaluate evaluates to what it builds of them. -/
theorem Makes.evaluates (h : Makes env c e data c') :
    ∃ v, Evaluates env e c v (e.settle c' data) ∧ v.data = data := by
  cases h with
  | tuple hitems => exact ⟨_, evaluates_tuple.mpr ⟨_, _, hitems, rfl, rfl⟩, rfl⟩
  | dict hentries => exact ⟨_, evaluates_dict.mpr ⟨_, _, hentries, rfl, rfl⟩, rfl⟩
  | filtered hchain hbefore hargs =>
      subst hchain
      exact ⟨_, evaluates_filtered_snoc.mpr ⟨_, _, _, _, hbefore, hargs, rfl, rfl⟩, rfl⟩
  | operator hop hl hr =>
      rw [Expr.settle_strict hop]
      exact ⟨_, (evaluates_strict hop).mpr ⟨_, _, _, _, hl, hr, rfl, rfl⟩, rfl⟩
  | join hl hr => exact ⟨_, evaluates_concat.mpr ⟨_, _, _, hl, hr, rfl⟩, rfl⟩
  | character hindices hcur ht hkey hch =>
      subst hindices
      have hread := (Value.reading_text ht _).trans (congrArg (Option.elim · _ _) hch)
      refine ⟨_, evaluates_subscript_snoc.mpr ⟨_, _, _, _, hcur, hkey, rfl, ?_⟩, ?_⟩
      · rw [hread]
        rfl
      · rw [Value.data_read, hread]
        rfl
  | range hcallee hf hbinds hargs =>
      exact ⟨_, (evaluates_call_range hcallee hf hbinds).mpr ⟨_, _, _, _, hargs, rfl, rfl⟩, rfl⟩
  | written hcallee hd hcallable hemits hwrites =>
      exact
        ⟨_, (evaluates_call_emits hcallee hd hcallable hemits).mpr ⟨_, _, hwrites, rfl, rfl⟩, rfl⟩

/-! ### The value is what is built

The converse goes through the expressions that build a payload only in some runs: a range
that does not bind and an index that reads no character give a value that takes no slot.
-/

section

variable {v : Value}

theorem makes_filtered {base : Expr} {chain : List (FilterLink Expr)} (hchain : chain ≠ [])
    (hrun : Evaluates env (.filtered base chain) c v c₁) :
    ∃ c', Makes env c (.filtered base chain) v.data c' ∧ c₁ = c'.keep v.data := by
  obtain ⟨before, link, rfl⟩ : ∃ before link, chain = before ++ [link] :=
    ⟨_, _, (List.dropLast_append_getLast hchain).symm⟩
  obtain ⟨u, c₀, args, c', hbefore, hargs, rfl, rfl⟩ := evaluates_filtered_snoc.mp hrun
  exact ⟨c', .filtered rfl hbefore hargs, rfl⟩

theorem makes_character {base index : Expr} {before : List Expr} {cur : Value} {t : Text}
    (hcur : Evaluates env (.subscript base before) c cur c') (ht : cur.data = .text t)
    (hslot : v.data.slot?.isSome = true)
    (hrun : Evaluates env (.subscript base (before ++ [index])) c v c₁) :
    ∃ c', Makes env c (.subscript base (before ++ [index])) v.data c' ∧ c₁ = c'.keep v.data := by
  obtain ⟨cur', c₂, key, c', hcur', hkey, rfl, rfl⟩ := evaluates_subscript_snoc.mp hrun
  obtain ⟨rfl, rfl⟩ := hcur.unique hcur'
  have hread := Value.reading_text ht key
  rw [Value.data_read] at hslot ⊢
  cases hch : key.asInt?.bind t.index? with
  | some ch =>
      rw [hch, Option.elim] at hread
      rw [hread]
      exact ⟨c', .character rfl hcur ht hkey hch, rfl⟩
  | none =>
      rw [hread, hch] at hslot
      exact absurd hslot (by simp [Value.empty, Value.of, Payload.slot?])

theorem makes_range {callee : Expr} {args : CallArgs Expr} {f : Value}
    (hcallee : Evaluates env callee c f c') (hf : f.asBuiltin? = some .range)
    (hslot : v.data.slot?.isSome = true) (hrun : Evaluates env (.call callee args) c v c₁) :
    ∃ c', Makes env c (.call callee args) v.data c' ∧ c₁ = c'.keep v.data := by
  cases hbinds : (bind rangeFormals args).succeeded with
  | true =>
      obtain ⟨start, stop, step, c', hargs, rfl, rfl⟩ :=
        (evaluates_call_range hcallee hf hbinds).mp hrun
      exact ⟨c', .range hcallee hf hbinds hargs, rfl⟩
  | false =>
      obtain ⟨rfl, rfl⟩ := (evaluates_call_range_unbound hcallee hf hbinds).mp hrun
      exact absurd hslot (by simp [Value.empty, Value.of, Payload.slot?])

/-- An expression that builds its payload has built the payload of its value. -/
theorem Builds.makes (h : Builds env c e) (hslot : v.data.slot?.isSome = true)
    (hrun : Evaluates env e c v c₁) : ∃ c', Makes env c e v.data c' ∧ c₁ = e.settle c' v.data := by
  cases h with
  | tuple =>
      obtain ⟨vs, c', hitems, rfl, rfl⟩ := evaluates_tuple.mp hrun
      exact ⟨c', .tuple hitems, rfl⟩
  | dict =>
      obtain ⟨vs, c', hentries, rfl, rfl⟩ := evaluates_dict.mp hrun
      exact ⟨c', .dict hentries, rfl⟩
  | filtered hchain => exact makes_filtered hchain hrun
  | operator hop =>
      obtain ⟨left, c₀, right, c', hl, hr, rfl, rfl⟩ := (evaluates_strict hop).mp hrun
      exact ⟨c', .operator hop hl hr, (Expr.settle_strict hop _ _).symm⟩
  | join =>
      obtain ⟨left, c₀, right, hl, hr, rfl⟩ := evaluates_concat.mp hrun
      exact ⟨c₁, .join hl hr, rfl⟩
  | character hindices hcur ht =>
      subst hindices
      exact makes_character hcur ht hslot hrun
  | range hcallee hf => exact makes_range hcallee hf hslot hrun
  | written hcallee hd hcallable hemits =>
      obtain ⟨t, c', hwrites, rfl, rfl⟩ :=
        (evaluates_call_emits hcallee hd hcallable hemits).mp hrun
      exact ⟨c', .written hcallee hd hcallable hemits hwrites, rfl⟩

end

/--
**Payloads are kept, but for joined texts.**  An expression that builds its payload
evaluates to a value of some text, list or map exactly if it builds that payload out of
what its operands evaluate to.  The payload then takes one slot in the pool, on top of
what the operands took; only a join leaves the pool as its operands left it.
-/
theorem payloads_are_kept (h : Builds env c e) (hslot : data.slot?.isSome = true) :
    (∃ v, Evaluates env e c v c₁ ∧ v.data = data) ↔
      ∃ c', Makes env c e data c' ∧
        if e.joins then c₁ = c' else c₁ = c'.keep data ∧ c₁.pool.size = c'.pool.size + 1 := by
  have hsettle : ∀ c', (if e.joins then c₁ = c' else c₁ = c'.keep data ∧
      c₁.pool.size = c'.pool.size + 1) ↔ c₁ = e.settle c' data := by
    intro c'
    unfold Expr.settle
    by_cases hjoins : e.joins = true
    · simp only [if_pos hjoins]
    · simp only [if_neg hjoins]
      refine ⟨And.left, fun hc₁ => ⟨hc₁, ?_⟩⟩
      rw [hc₁, Context.size_keep c' hslot]
  simp only [hsettle]
  constructor
  · intro hrun
    obtain ⟨v, hrun, rfl⟩ := hrun
    exact h.makes hslot hrun
  · intro hmakes
    obtain ⟨c', hmakes, rfl⟩ := hmakes
    exact hmakes.evaluates

/-- A text of one character. -/
def letter (text : String) : Expr := .const (.ofText (.narrow text))

private theorem evaluates_letter (env : Env) (c : Context) (text : String) :
    Evaluates env (letter text) c (.ofText (.narrow text)) c := evaluates_const.mpr ⟨rfl, rfl⟩

/-- A sum in a tuple: two payloads are built, and both are kept. -/
theorem payloads_are_kept_sum :
    ∃ v c₁, Evaluates ⟨.narrow, .empty⟩ (.tuple [.binary .add (letter "a") (letter "b")])
      (.ofGlobals .nil) v c₁ ∧ c₁.pool.size = 2 := by
  let env : Env := ⟨.narrow, .empty⟩
  let c : Context := .ofGlobals .nil
  let sum : Expr := .binary .add (letter "a") (letter "b")
  have hsum : Makes env c sum (.text (.narrow "ab")) c :=
    .operator rfl (evaluates_letter env c "a") (evaluates_letter env c "b")
  obtain ⟨u, hu, -⟩ := (payloads_are_kept (.operator rfl) rfl).mpr ⟨c, hsum, rfl, rfl⟩
  have htuple : Makes env c (.tuple [sum]) (.list (.owned [u])) (c.keep (.text (.narrow "ab"))) :=
    .tuple (.cons hu .nil)
  obtain ⟨v, hv, -⟩ := (payloads_are_kept .tuple rfl).mpr ⟨_, htuple, rfl, rfl⟩
  exact ⟨v, _, hv, rfl⟩

/-- **A joined text is not kept**: it is built, and the pool stays empty. -/
theorem joined_text_is_not_kept :
    Makes ⟨.narrow, .empty⟩ (.ofGlobals .nil) (.binary .concat (letter "a") (letter "b"))
        (.text (.narrow "ab")) (.ofGlobals .nil) ∧
      ∃ v c₁, Evaluates ⟨.narrow, .empty⟩ (.binary .concat (letter "a") (letter "b"))
        (.ofGlobals .nil) v c₁ ∧ v.data = .text (.narrow "ab") ∧ c₁.pool.size = 0 :=
  ⟨.join (evaluates_letter _ _ "a") (evaluates_letter _ _ "b"), _, _, ⟨2, rfl⟩, rfl, rfl⟩

end TemplateExpr
