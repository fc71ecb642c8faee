/-
What a likeness must be kept by.

Evaluation looks at values in a few ways only and makes new ones in a few more.  A
likeness that all of these keep is kept by evaluation as a whole, so `Respects` lists
them: each field is about plain functions of values, with no context and no depth.

Two of these functions stand inside computations, reading an index and applying a
filter.  They are brought out here: `reading` is what an index reads, and `result` what
a filter makes of a text and the values of its parameters.
-/
import TemplateExpr.Proofs.Simulation.Binding

namespace TemplateExpr

/-! ### Reading an index

Reading may make a new payload, which then takes a slot, or hand out a value that is
there already.  `reading` says which, so that the slot can be spoken of apart from the
value.
-/

/-- What `key` reads out of `base`, and whether its payload is a new one. -/
def Value.reading (base key : Value) : Value × Bool :=
  match base.data with
  | .list l => ((key.asInt?.bind l.index?).getD .empty, false)
  | .map m => ((key.asText?.bind fun name => m.get? name.toPlain).getD .empty, false)
  | .text t =>
    match key.asInt?.bind t.index? with
    | some c => (.ofText c, true)
    | none => (.empty, false)
  | _ => (.empty, false)

theorem Value.subscript_eq (base key : Value) :
    base.subscript key =
      if (base.reading key).2 then EvalM.create (base.reading key).1.data
      else pure (base.reading key).1 := by
  unfold subscript reading
  cases base.data with
  | text t =>
      dsimp only
      rcases Option.eq_none_or_eq_some (key.asInt?.bind t.index?) with h | ⟨c, h⟩
      · simp [h]
      · simp [h, ofText, of]
  | _ => rfl

/-- A reading that is new has no marks. -/
theorem Value.of_reading (base key : Value) (h : (base.reading key).2 = true) :
    Value.of (base.reading key).1.data = (base.reading key).1 := by
  revert h
  unfold reading
  split
  · exact fun h => absurd h (by simp)
  · exact fun h => absurd h (by simp)
  · split
    · exact fun _ => rfl
    · exact fun h => absurd h (by simp)
  · exact fun h => absurd h (by simp)

/-! ### The result of a filter

A filter evaluates its arguments and then computes.  `params` is the order in which it
evaluates them and `result` what it computes, so whatever is asked of all filters is
asked of a function of values and a fixed list of names.
-/

namespace Filter

/-- The parameters a filter looks at, in the order it evaluates them. -/
def params : Filter → List String
  | .replace => ["old", "new", "count"]
  | .truncate => ["length", "killwords", "end", "leeway"]
  | _ => []

/-- What a filter makes of a text and the values of its parameters. -/
def result (f : Filter) (t : Text) (args : List Value) : Payload Value :=
  match f, args with
  | .trim, _ => .text (t.mapChars Trim.normalize)
  | .title, _ => .text (t.mapChars Words.capitalize)
  | .wordCount, _ => .int (Int64.ofNat (Words.count t.chars))
  | .upper, _ => .text (t.mapChars (·.map Char.toUpper))
  | .lower, _ => .text (t.mapChars (·.map Char.toLower))
  | .replace, [old, new, count] =>
    .text (t.mapChars (Search.replace old.argChars new.argChars (count.toInt 0)))
  | .truncate, [length, killWords, ending, leeway] =>
    .text (t.mapChars (Truncate.truncate (length.toInt 0) killWords.truthy ending.argChars
      (leeway.toInt 5)))
  | .urlEncode, _ => .text (Percent.encode t)
  | _, _ => .empty

/-- A filter evaluates its parameters in order and does nothing else but compute. -/
theorem payload_eq (sub : Evaluator) (f : Filter) (b : Binding Expr) (t : Text) :
    f.payload sub b t = f.params.mapM (b.value sub) >>= fun args => pure (f.result t args) := by
  cases f <;> simp [payload, params, result]

end Filter

/-! ### Calls -/

/-- A value stands for the function it is, or for the one it holds as a member. -/
theorem Library.resolve_eq (l : Library) (callee : Value) :
    l.resolve callee =
      (callee.asFunction?.or
        ((callee.asMap?.bind fun m => m.get? callMember).bind Value.asFunction?)).bind l.find? := by
  unfold resolve Value.asFunction? Value.asMap?
  cases callee.data <;> rfl

/-! ### Kept likenesses

The two structures differ in one point.  `Keeps` asks for marks only where a value was
made on the spot, which is enough for every expression but a subscript and an empty
chain.  `Respects` asks for them on any value.
-/

/--
A likeness of values and texts that the functions of values keep, with target widths `w`
and `w'`, as long as no marks are put on values that were not made on the spot.
-/
structure Likeness.Keeps (L : Likeness) (w w' : CharWidth) : Prop where
  /-- Corresponding values take the same number of slots. -/
  slot : ∀ {v v'}, L.value v v' → v.data.slot?.isSome = v'.data.slot?.isSome
  isEmpty : ∀ {v v'}, L.value v v' → v.isEmpty = v'.isEmpty
  truthy : ∀ {v v'}, L.value v v' → v.truthy = v'.truthy
  toInt : ∀ {v v'}, L.value v v' → ∀ default, v.toInt default = v'.toInt default
  asBuiltin? : ∀ {v v'}, L.value v v' → v.asBuiltin? = v'.asBuiltin?
  asFunction? : ∀ {v v'}, L.value v v' → v.asFunction? = v'.asFunction?
  /-- Corresponding maps have corresponding values for every key. -/
  asMap? : ∀ {v v'}, L.value v v' →
    Option.Rel (fun m m' => ∀ key, Option.Rel L.value (m.get? key) (m'.get? key)) v.asMap? v'.asMap?
  memberOf : ∀ {v v' s s'}, L.value v v' → L.value s s' → v.memberOf s = v'.memberOf s'
  empty : L.value .empty .empty
  bool : ∀ b, L.value (.ofBool b) (.ofBool b)
  ofText : ∀ {t t'}, L.text t t' → L.value (.ofText t) (.ofText t')
  list : ∀ {vs vs'}, List.Forall₂ L.value vs vs' →
    L.value (.of (.list (.owned vs))) (.of (.list (.owned vs')))
  map : ∀ {es es'}, Dict.Alike L.value es es' →
    L.value (.of (.map (.owned es))) (.of (.map (.owned es')))
  progression : ∀ count first step,
    L.value (.of (.list (.progression count first step)))
      (.of (.list (.progression count first step)))
  /-- New values still correspond when they are marked as scratch results. -/
  made : ∀ {d d'}, L.value (.of d) (.of d') →
    L.value (Value.of d).asTemporary (Value.of d').asTemporary
  unary : ∀ op {v v'}, L.value v v' → L.value (.of (UnaryOp.apply op v)) (.of (op.apply v'))
  binary : ∀ op {v v' u u'}, L.value v v' → L.value u u' →
    L.value (.of (BinaryOp.apply op v u)) (.of (op.apply v' u'))
  scratch : ∀ {v v' d d'}, L.value v v' → L.value (.of d) (.of d') →
    L.value (v.scratch d) (v'.scratch d')
  concat : ∀ {v v' u u'}, L.value v v' → L.value u u' →
    L.value (v.concat w u) (v'.concat w' u')
  /-- The defaults of a filter are the same on both sides, whether they correspond or not. -/
  filter : ∀ {f v v' args args'}, L.allows f → L.value v v' →
    List.Forall₂ (fun a a' => L.value a a' ∨ a = a') args args' →
    L.value (.of (f.result (v.toOwnText w) args)) (.of (f.result (v'.toOwnText w') args'))
  emptyText : L.text (.empty w) (.empty w')
  write : ∀ {t t' v v'}, L.text t t' → L.value v v' → L.text (t.write v) (t'.write v')

/-- A likeness that all functions of values keep. -/
structure Likeness.Respects (L : Likeness) (w w' : CharWidth) : Prop extends L.Keeps w w' where
  asTemporary : ∀ {v v'}, L.value v v' → L.value v.asTemporary v'.asTemporary
  reading : ∀ {b b' k k'}, L.value b b' → L.value k k' →
    L.value (b.reading k).1 (b'.reading k').1 ∧ (b.reading k).2 = (b'.reading k').2
  /-- A value read out of another one hangs off it when that one must be kept. -/
  setParent : ∀ {v v' p p'}, L.value v v' → L.value p p' →
    L.value (if p.extendsLifetime then v.setParent p else v)
      (if p'.extendsLifetime then v'.setParent p' else v')

end TemplateExpr
