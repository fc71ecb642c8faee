/-
Marks never influence a result.

Values that are the same but for their marks form a likeness that every operation
keeps, so two runs over expressions, functions and scopes that differ in marks only do
the same: they give the same value but for its marks or write the same text, call the
same functions in the same order and take as many slots, or both run out of depth.
-/
import TemplateExpr.Proofs.Simulation.Equivalence
import TemplateExpr.Proofs.Simulation.Eval
import TemplateExpr.Proofs.Values.Recast

namespace TemplateExpr

/-! ### Values without their marks

`erase` takes the marks off a value and off every value it holds, and changes nothing
else.  So it is a recast that leaves the width of texts alone, and no operation can tell
a value from the same one without its marks.
-/

/-- A value without its marks and those of the values it holds. -/
def Value.erase : Value → Value := Value.fold fun data _ _ => .of data

theorem Value.erase_eq (v : Value) : v.erase = .of (v.data.recast id Value.erase) := by
  obtain ⟨data, temporary, parent⟩ := v
  rw [Payload.recast_id]
  exact Value.fold_mk _ data temporary parent

/-- Taking the marks off. -/
def Recast.erase : Recast where
  width := id
  value := Value.erase
  data_value := fun v => congrArg Value.data v.erase_eq
  value_of := fun d => (Value.of d).erase_eq

/-- Texts that can be joined without marks can be joined with them. -/
theorem Recast.erase_joins (s t : Text) : Recast.erase.Joins s t := fun h => h

namespace Value

variable (v : Value)

theorem asTemporary_erase : v.asTemporary.erase = v.erase :=
  (erase_eq v.asTemporary).trans (erase_eq v).symm

theorem setParent_erase (p : Value) : (v.setParent p).erase = v.erase :=
  (erase_eq (v.setParent p)).trans (erase_eq v).symm

theorem erase_of (d : Payload Value) : (of d).erase = of (d.recast id erase) := (of d).erase_eq

end Value

/-! ### Values that differ in marks only

Erasing the marks is a recast, so every question has one answer for a value and for what
erasing leaves of it.  Two values with one erasure therefore get one answer, and that is
what the fields of `Respects` ask for, one after the other.
-/

/-- Values correspond when they are the same but for their marks; texts are the same. -/
def Likeness.unmarked : Likeness := ⟨fun v v' => v.erase = v'.erase, Eq, fun _ => True⟩

section

variable {α : Type} {v v' u u' : Value}

/-- What does not look at marks is the same for values that differ in marks only. -/
theorem same_of_erase {f : Value → α} (hf : ∀ v, f v.erase = f v) (h : v.erase = v'.erase) :
    f v = f v' := by
  rw [← hf v, h, hf v']

theorem same_of_erase₂ {f : Value → Value → α} (hf : ∀ v u, f v.erase u.erase = f v u)
    (hv : v.erase = v'.erase) (hu : u.erase = u'.erase) : f v u = f v' u' := by
  rw [← hf v u, hv, hu, hf v' u']

theorem toOwnText_of_erase (w : CharWidth) (h : v.erase = v'.erase) :
    v.toOwnText w = v'.toOwnText w :=
  same_of_erase (f := (·.toOwnText w))
    (fun v => (Recast.erase.toOwnText v w).trans (v.toOwnText w).recast_id) h

theorem sameArgument_of_erase (h : v.erase = v'.erase) : SameArgument v v' where
  argChars := same_of_erase Recast.erase.argChars h
  truthy := same_of_erase Recast.erase.truthy h
  toInt := fun default => same_of_erase (f := (·.toInt default)) (Recast.erase.toInt · default) h

end

private theorem rel_of_map_erase {o o' : Option Value}
    (h : o.map Value.erase = o'.map Value.erase) : Option.Rel Likeness.unmarked.value o o' := by
  cases o with
  | none =>
      cases o' with
      | none => exact .none
      | some v' => exact absurd h (by simp)
  | some v =>
      cases o' with
      | none => exact absurd h (by simp)
      | some v' => exact .some (Option.some.inj h)

private theorem maps_alike {v v' : Value} (h : v.erase = v'.erase) :
    Option.Rel (fun m m' => ∀ key, Option.Rel Likeness.unmarked.value (m.get? key) (m'.get? key))
      v.asMap? v'.asMap? := by
  have hmaps : v.asMap?.map (MapSource.map Value.erase) =
      v'.asMap?.map (MapSource.map Value.erase) :=
    (Recast.erase.asMap? v).symm.trans ((congrArg Value.asMap? h).trans (Recast.erase.asMap? v'))
  revert hmaps
  cases v.asMap? with
  | none =>
      cases v'.asMap? with
      | none => exact fun _ => .none
      | some m' => exact fun h => absurd h (by simp)
  | some m =>
      cases v'.asMap? with
      | none => exact fun h => absurd h (by simp)
      | some m' =>
          refine fun h => .some fun key => rel_of_map_erase ?_
          rw [← MapSource.get?_map, ← MapSource.get?_map, Option.some.inj h]

/-- Payloads that are the same without marks make values that are. -/
private theorem erase_of_congr {d d' : Payload Value}
    (h : d.recast id Value.erase = d'.recast id Value.erase) :
    (Value.of d).erase = (Value.of d').erase := by
  rw [Value.erase_of, Value.erase_of, h]

theorem Likeness.unmarked_respects (w : CharWidth) : Likeness.unmarked.Respects w w where
  slot := fun h => same_of_erase (f := fun v => v.data.slot?.isSome) Recast.erase.isSome_slot? h
  isEmpty := fun h => same_of_erase Recast.erase.isEmpty h
  truthy := fun h => same_of_erase Recast.erase.truthy h
  toInt := fun h default => same_of_erase (f := (·.toInt default)) (Recast.erase.toInt · default) h
  asBuiltin? := fun h => same_of_erase Recast.erase.asBuiltin? h
  asFunction? := fun h => same_of_erase Recast.erase.asFunction? h
  asMap? := maps_alike
  memberOf := fun hv hs => same_of_erase₂ Recast.erase.memberOf hv hs
  empty := rfl
  bool := fun _ => rfl
  ofText := fun h => congrArg (fun t => (Value.ofText t).erase) h
  list := by
    intro vs vs' h
    refine erase_of_congr (congrArg (fun vs => Payload.list (.owned vs)) ?_)
    exact map_eq_of_alike h fun _ _ hv => hv
  map := by
    intro es es' h
    refine erase_of_congr (congrArg (fun es => Payload.map (.owned es)) ?_)
    exact Dict.mapValues_eq_of_alike h fun _ _ hv => hv
  progression := fun _ _ _ => rfl
  made := by
    intro d d' h
    show (Value.of d).asTemporary.erase = (Value.of d').asTemporary.erase
    rw [Value.asTemporary_erase, Value.asTemporary_erase]
    exact h
  asTemporary := by
    intro v v' h
    show v.asTemporary.erase = v'.asTemporary.erase
    rw [Value.asTemporary_erase, Value.asTemporary_erase]
    exact h
  setParent := by
    intro v v' p p' hv _
    have hself : ∀ v p : Value,
        (if p.extendsLifetime then v.setParent p else v).erase = v.erase := by
      intro v p
      split
      · exact v.setParent_erase p
      · rfl
    show (if p.extendsLifetime then v.setParent p else v).erase
      = (if p'.extendsLifetime then v'.setParent p' else v').erase
    rw [hself, hself]
    exact hv
  reading := by
    intro b b' k k' hb hk
    have hread := (Recast.erase.reading b k).symm.trans
      ((congrArg₂ Value.reading hb hk).trans (Recast.erase.reading b' k'))
    obtain ⟨h₁, h₂⟩ := Prod.mk.inj hread
    exact ⟨h₁, h₂⟩
  unary := by
    intro op v v' h
    refine erase_of_congr ?_
    exact (Recast.erase.unary op v).trans
      ((congrArg op.apply h).trans (Recast.erase.unary op v').symm)
  binary := by
    intro op v v' u u' hv hu
    have hjoins : ∀ a b : Value, ∀ s t,
        a.data = .text s → b.data = .text t → Recast.erase.Joins s t :=
      fun _ _ s t _ _ => Recast.erase_joins s t
    refine erase_of_congr ?_
    exact (Recast.erase.binary op (hjoins v u)).trans
      ((congrArg₂ op.apply hv hu).trans (Recast.erase.binary op (hjoins v' u')).symm)
  scratch := by
    intro v v' d d' _ hd
    show (v.scratch d).erase = (v'.scratch d').erase
    rw [Value.scratch_eq, Value.scratch_eq, Value.asTemporary_erase, Value.asTemporary_erase]
    exact hd
  concat := by
    intro v v' u u' hv hu
    show (v.concat w u).erase = (v'.concat w u').erase
    rw [Value.erase_eq, Value.erase_eq (v'.concat w u'), Value.data_concat, Value.data_concat,
      toOwnText_of_erase w hv, toOwnText_of_erase w hu]
  filter := by
    intro f v v' args args' _ hv hargs
    have hsame : List.Forall₂ SameArgument args args' := by
      refine hargs.imp fun a a' ha => ?_
      rcases ha with ha | rfl
      · exact sameArgument_of_erase ha
      · exact ⟨rfl, rfl, fun _ => rfl⟩
    show (Value.of (f.result (v.toOwnText w) args)).erase
      = (Value.of (f.result (v'.toOwnText w) args')).erase
    rw [f.result_congr _ hsame, toOwnText_of_erase w hv]
  emptyText := rfl
  write := by
    intro t t' v v' ht hv
    obtain rfl : t = t' := ht
    have ht : v.toText t.width = v'.toText t.width :=
      same_of_erase (f := (·.toText t.width)) (Recast.erase.toText · t.width) hv
    show t.write v = t.write v'
    unfold Text.write
    rw [ht]

/-- Two runs that did the same: alike scopes are left, the same functions were called in
the same order, and the pools have grown by as many slots. -/
structure SameEffects (c c' c₁ c₁' : Context) : Prop where
  scopes : Scopes.Alike .unmarked c₁.scopes c₁'.scopes
  calls : ∃ lines, c₁.calls = c.calls ++ lines ∧ c₁'.calls = c'.calls ++ lines
  slots : ∃ k, c₁.pool.size = c.pool.size + k ∧ c₁'.pool.size = c'.pool.size + k

private theorem runs_alike (w : CharWidth) {l l' : Library} (hl : Library.Alike .unmarked l l')
    (c c' : Context) (depth : Nat) :
    Evaluator.Alike .unmarked c c' ⟨evalTo ⟨w, l⟩ depth, renderTo ⟨w, l⟩ depth⟩
      ⟨evalTo ⟨w, l'⟩ depth, renderTo ⟨w, l'⟩ depth⟩ :=
  runs_follow (Likeness.unmarked_respects w) hl c c' (Nat.le_refl depth)

/--
**Marks never influence a result.**  Expressions, libraries and scopes that differ in
marks only evaluate to the same value but for its marks and render as the same text,
with the same calls and as many slots.  A scratch result used again, by an operator or
for joining texts, holds what a fresh cell would.
-/
theorem marks_are_irrelevant {w : CharWidth} {l l' : Library} {e e' : Expr} {c c' : Context}
    (hl : Library.Alike .unmarked l l') (he : Expr.Alike .unmarked e e')
    (hc : Scopes.Alike .unmarked c.scopes c'.scopes) (depth : Nat) :
    Option.Rel (fun r r' => r.1.erase = r'.1.erase ∧ SameEffects c c' r.2 r'.2)
      (evalTo ⟨w, l⟩ depth e c) (evalTo ⟨w, l'⟩ depth e' c') ∧
    (∀ buffer, Option.Rel (fun r r' => r.1 = r'.1 ∧ SameEffects c c' r.2 r'.2)
      (renderTo ⟨w, l⟩ depth e buffer c) (renderTo ⟨w, l'⟩ depth e' buffer c')) ∧
    (∀ left data, (Value.scratch left data).data = data) ∧
    (∀ left right : Value,
      (left.concat w right).data = ({ left with temporary := false }.concat w right).data) := by
  have hsymm : ∀ {v v' : Value}, Likeness.unmarked.value v v' → Likeness.unmarked.value v' v :=
    fun h => Eq.symm h
  -- Each run follows the other, so neither can run out of depth alone.
  have hruns := runs_alike w hl c c' depth
  have hruns' := runs_alike w (hl.symm hsymm) c' c depth
  have hstart := Context.Alike.start hc
  have hstart' := Context.Alike.start (hc.symm hsymm)
  have heffects : ∀ {c₁ c₁'}, Context.Alike .unmarked c c' c₁ c₁' → SameEffects c c' c₁ c₁' :=
    fun h => ⟨h.scopes, h.calls, h.pool.size⟩
  refine ⟨?_, fun buffer => ?_, Value.data_scratch, fun left right => ?_⟩
  · have hrel := EvalM.Simulates.rel (hruns.eval e e' he) (hruns'.eval e' e (he.symm hsymm))
      hstart hstart'
    exact rel_mono hrel fun _ _ h => ⟨h.1, heffects h.2⟩
  · have hbuffer : Likeness.unmarked.text buffer buffer := rfl
    have hrel := EvalM.Simulates.rel (hruns.render he hbuffer)
      (hruns'.render (he.symm hsymm) hbuffer) hstart hstart'
    exact rel_mono hrel fun _ _ h => ⟨h.1, heffects h.2⟩
  · rw [Value.data_concat, Value.data_concat]
    cases left
    rfl

/-- Joining a text onto `left`. -/
def joinB (left : Value) : Expr := .binary .concat (.const left) (.const (.ofText (.narrow "b")))

/-- A scratch text read out of another value, and the same text in a cell of its own. -/
theorem marks_are_irrelevant_joinB :
    ∃ r r', evalTo ⟨.narrow, .empty⟩ 2 (joinB ⟨.text (.narrow "a"), true, some .empty⟩)
        (.ofGlobals .nil) = some r ∧
      evalTo ⟨.narrow, .empty⟩ 2 (joinB (.ofText (.narrow "a"))) (.ofGlobals .nil) = some r' ∧
      r.1.parent.isSome = true ∧ r'.1.parent.isSome = false ∧ r.1.erase = r'.1.erase := by
  have hlib : Library.Alike .unmarked .empty .empty :=
    Library.Alike.refl (fun _ => rfl) (fun _ => trivial) .empty
  have hexpr : Expr.Alike .unmarked (joinB ⟨.text (.narrow "a"), true, some .empty⟩)
      (joinB (.ofText (.narrow "a"))) := .binary .concat (.const rfl) (.const rfl)
  have hscopes := Scopes.Alike.refl (L := .unmarked) (fun _ => rfl) (Context.ofGlobals .nil).scopes
  have hrel := (marks_are_irrelevant (w := .narrow) hlib hexpr hscopes 2).1
  have hrun : ∃ r, evalTo ⟨.narrow, .empty⟩ 2 (joinB ⟨.text (.narrow "a"), true, some .empty⟩)
      (.ofGlobals .nil) = some r ∧ r.1.parent.isSome = true := ⟨_, rfl, rfl⟩
  have hrun' : ∃ r', evalTo ⟨.narrow, .empty⟩ 2 (joinB (.ofText (.narrow "a"))) (.ofGlobals .nil)
      = some r' ∧ r'.1.parent.isSome = false := ⟨_, rfl, rfl⟩
  obtain ⟨r, hr, hparent⟩ := hrun
  obtain ⟨r', hr', hparent'⟩ := hrun'
  rw [hr, hr'] at hrel
  cases hrel with
  | some h => exact ⟨r, r', hr, hr', hparent, hparent', h.1⟩

end TemplateExpr
