/-
Expressions and contexts that are alike.

A `Likeness` says which values and which texts correspond to each other.  Two
expressions are alike when they are the same tree over corresponding constants, and
two libraries when they hold functions with corresponding bodies and defaults under the
same handles.  Two contexts are alike when their scopes define the same names with
corresponding values; of their pools and logs only what was added since two given
contexts counts, so runs that started with different pools can still be compared.

A likeness may also rule filters out, for relations that a filter does not keep.
-/
import Mathlib.Data.List.Forall2
import TemplateExpr.Eval.Expr

namespace TemplateExpr

/-- Which values and texts correspond, and which filters may be applied to them. -/
structure Likeness where
  value : Value → Value → Prop
  text : Text → Text → Prop
  allows : Filter → Prop

theorem isSome_eq_of_rel {α β : Type} {R : α → β → Prop} {o : Option α} {o' : Option β}
    (h : Option.Rel R o o') : o.isSome = o'.isSome := by
  cases h <;> rfl

theorem eq_or_exists_of_rel {α β : Type} {R : α → β → Prop} {o : Option α} {o' : Option β}
    (h : Option.Rel R o o') : (o = none ∧ o' = none) ∨ ∃ a b, o = some a ∧ o' = some b ∧ R a b := by
  cases h with
  | none => exact Or.inl ⟨rfl, rfl⟩
  | some h => exact Or.inr ⟨_, _, rfl, rfl, h⟩

theorem rel_mono {α β : Type} {R Q : α → β → Prop} {o : Option α} {o' : Option β}
    (h : Option.Rel R o o') (hRQ : ∀ a b, R a b → Q a b) : Option.Rel Q o o' := by
  cases h with
  | none => exact .none
  | some h => exact .some (hRQ _ _ h)

/-! ### Dictionaries

Entries are compared in turn and dictionaries along their chains, so alike dictionaries
have the same keys, and storing under one key on both sides happens at the same place.
-/

section

variable {α β : Type}

/-- Two entries with one key and related values. -/
inductive SameKey (R : α → β → Prop) : String × α → String × β → Prop
  | mk (key : String) {a : α} {b : β} (h : R a b) : SameKey R (key, a) (key, b)

/-- Two lists of entries with the same keys in turn and related values. -/
abbrev Entries.Alike (R : α → β → Prop) : List (String × α) → List (String × β) → Prop :=
  List.Forall₂ (SameKey R)

/-- Two dictionaries with the same keys and related values. -/
inductive Dict.Alike (R : α → β → Prop) :
    {bound : Option String} → Dict α bound → Dict β bound → Prop
  | nil {bound : Option String} : Alike R (.nil : Dict α bound) .nil
  | cons {bound : Option String} {key : String} {above : Above bound key} {a : α} {b : β}
      {d : Dict α (some key)} {d' : Dict β (some key)} (h : R a b) (hd : Alike R d d') :
      Alike R (.cons key a above d) (.cons key b above d')

end

namespace Dict

variable {α β : Type} {R : α → β → Prop} {bound : Option String}

theorem entries_alike {d : Dict α bound} {d' : Dict β bound} (h : Alike R d d') :
    Entries.Alike R d.entries d'.entries := by
  induction h with
  | nil => exact .nil
  | cons h _ ih => exact .cons ⟨_, h⟩ ih

theorem values_alike {d : Dict α bound} {d' : Dict β bound} (h : Alike R d d') :
    List.Forall₂ R d.values d'.values := by
  induction h with
  | nil => exact .nil
  | cons h _ ih => exact .cons h ih

theorem get?_alike {d : Dict α bound} {d' : Dict β bound} (h : Alike R d d') (key : String) :
    Option.Rel R (get? key d) (get? key d') := by
  induction h with
  | nil => exact .none
  | @cons _ k _ _ _ _ _ hab _ ih =>
      rw [get?_cons, get?_cons]
      by_cases hk : k = key
      · rw [if_pos hk, if_pos hk]
        exact .some hab
      · rw [if_neg hk, if_neg hk]
        exact ih

theorem contains_alike {d : Dict α bound} {d' : Dict β bound} (h : Alike R d d') (key : String) :
    contains key d = contains key d' :=
  isSome_eq_of_rel (get?_alike h key)

/-- Functions that make the same of related values make the same of alike dictionaries. -/
theorem mapValues_eq_of_alike {γ : Type} {f : α → γ} {g : β → γ} {d : Dict α bound}
    {d' : Dict β bound} (h : Alike R d d') (hfg : ∀ a b, R a b → f a = g b) :
    mapValues f d = mapValues g d' := by
  induction h with
  | nil => rfl
  | cons hab _ ih => rw [mapValues, mapValues, hfg _ _ hab, ih]

theorem insertAbove_alike {d : Dict α bound} {d' : Dict β bound} (h : Alike R d d') {key : String}
    (above : Above bound key) {a : α} {b : β} (hab : R a b) :
    Alike R (insertAbove key a above d) (insertAbove key b above d') := by
  induction h with
  | nil => exact .cons hab .nil
  | @cons _ k _ _ _ _ _ hcd hd ih =>
      unfold insertAbove
      by_cases heq : key = k
      · rw [dif_pos heq, dif_pos heq]
        exact .cons hab hd
      · rw [dif_neg heq, dif_neg heq]
        by_cases hlt : key < k
        · rw [dif_pos hlt, dif_pos hlt]
          exact .cons hab (.cons hcd hd)
        · rw [dif_neg hlt, dif_neg hlt]
          exact .cons hcd (ih _)

theorem insert_alike {d : Dict α} {d' : Dict β} (h : Alike R d d') (key : String) {a : α} {b : β}
    (hab : R a b) : Alike R (insert key a d) (insert key b d') :=
  insertAbove_alike h (above_none key) hab

theorem insertAll_alike {es : List (String × α)} {es' : List (String × β)}
    (hes : Entries.Alike R es es') {d : Dict α} {d' : Dict β} (hd : Alike R d d') :
    Alike R (insertAll es d) (insertAll es' d') := by
  induction hes generalizing d d' with
  | nil => exact hd
  | cons he _ ih =>
      obtain ⟨k, hab⟩ := he
      exact ih (insert_alike hd k hab)

theorem ofList_alike {es : List (String × α)} {es' : List (String × β)}
    (h : Entries.Alike R es es') : Alike R (ofList es) (ofList es') :=
  insertAll_alike h .nil

end Dict

/-! ### Expressions

The lists, calls, links and guards that an expression consists of are related by
relations with the one for expressions as a parameter, so the relation is one inductive
type and not a family of them.  Constants are where the two trees may differ.
-/

section

variable {ε ε' : Type}

/-- Two calls with related arguments in the same places. -/
inductive CallArgs.Alike (R : ε → ε' → Prop) : CallArgs ε → CallArgs ε' → Prop
  | mk {p : List ε} {p' : List ε'} {k : Dict ε} {k' : Dict ε'}
      (positional : List.Forall₂ R p p') (keyword : Dict.Alike R k k') :
      Alike R ⟨p, k⟩ ⟨p', k'⟩

/-- Two links with one filter and related arguments. -/
inductive FilterLink.Alike (allows : Filter → Prop) (R : ε → ε' → Prop) :
    FilterLink ε → FilterLink ε' → Prop
  | mk {f : Filter} {args : CallArgs ε} {args' : CallArgs ε'} (hf : allows f)
      (hargs : CallArgs.Alike R args args') : Alike allows R ⟨f, args⟩ ⟨f, args'⟩

/-- Two guards with related conditions and alternatives. -/
inductive Guard.Alike (R : ε → ε' → Prop) : Guard ε → Guard ε' → Prop
  | mk {t : ε} {t' : ε'} {o : Option ε} {o' : Option ε'} (test : R t t')
      (otherwise : Option.Rel R o o') : Alike R ⟨t, o⟩ ⟨t', o'⟩

end

/-- The same tree over corresponding constants. -/
inductive Expr.Alike (L : Likeness) : Expr → Expr → Prop
  | const {v v' : Value} (hv : L.value v v') : Alike L (.const v) (.const v')
  | var (name : String) : Alike L (.var name) (.var name)
  | subscript {b b' : Expr} {is is' : List Expr} (hb : Alike L b b')
      (his : List.Forall₂ (Alike L) is is') : Alike L (.subscript b is) (.subscript b' is')
  | filtered {b b' : Expr} {ls : List (FilterLink Expr)} {ls' : List (FilterLink Expr)}
      (hb : Alike L b b') (hls : List.Forall₂ (FilterLink.Alike L.allows (Alike L)) ls ls') :
      Alike L (.filtered b ls) (.filtered b' ls')
  | unary (op : UnaryOp) {e e' : Expr} (he : Alike L e e') : Alike L (.unary op e) (.unary op e')
  | binary (op : BinaryOp) {l l' r r' : Expr} (hl : Alike L l l') (hr : Alike L r r') :
      Alike L (.binary op l r) (.binary op l' r')
  | tuple {es es' : List Expr} (hes : List.Forall₂ (Alike L) es es') :
      Alike L (.tuple es) (.tuple es')
  | dict {es es' : List (String × Expr)} (hes : List.Forall₂ (SameKey (Alike L)) es es') :
      Alike L (.dict es) (.dict es')
  | test (t : Tester) {e e' : Expr} {args args' : CallArgs Expr} (he : Alike L e e')
      (hargs : CallArgs.Alike (Alike L) args args') : Alike L (.test e t args) (.test e' t args')
  | call {f f' : Expr} {args args' : CallArgs Expr} (hf : Alike L f f')
      (hargs : CallArgs.Alike (Alike L) args args') : Alike L (.call f args) (.call f' args')
  | full {b b' : Option Expr} {g g' : Option (Guard Expr)} (hb : Option.Rel (Alike L) b b')
      (hg : Option.Rel (Guard.Alike (Alike L)) g g') : Alike L (.full b g) (.full b' g')

/-! ### Functions -/

/-- Two parameters that differ only in corresponding defaults. -/
structure Formal.Alike (L : Likeness) (f f' : Formal) : Prop where
  name : f.name = f'.name
  mandatory : f.mandatory = f'.mandatory
  fallback : Option.Rel L.value f.fallback f'.fallback

/-- The same behaviour over corresponding values and alike expressions. -/
inductive Behaviour.Alike (L : Likeness) : Behaviour → Behaviour → Prop
  | answer {v v' : Value} (hv : L.value v v') : Alike L (.answer v) (.answer v')
  | compute {fs fs' : List Formal} {e e' : Expr} (hfs : List.Forall₂ (Formal.Alike L) fs fs')
      (he : Expr.Alike L e e') : Alike L (.compute fs e) (.compute fs' e')
  | emit {fs fs' : List Formal} {es es' : List Expr} (hfs : List.Forall₂ (Formal.Alike L) fs fs')
      (hes : List.Forall₂ (Expr.Alike L) es es') : Alike L (.emit fs es) (.emit fs' es')

/-- Two functions with one tag and origin that behave alike. -/
structure FunctionDef.Alike (L : Likeness) (f f' : FunctionDef) : Prop where
  tag : f.tag = f'.tag
  origin : f.origin = f'.origin
  behaviour : Behaviour.Alike L f.behaviour f'.behaviour

/-- Two libraries with alike functions under the same handles. -/
def Library.Alike (L : Likeness) (l l' : Library) : Prop :=
  ∀ id, Option.Rel (FunctionDef.Alike L) (l.find? id) (l'.find? id)

/-! ### Contexts

Two runs that start with different pools never come to the same pool.  What can be
compared is what each of them has added: `Alike L b b' c c'` counts from `b` and `b'`,
and says that the slots since then keep corresponding payloads and that the lines since
then are equal.
-/

/-- Two scope chains that define the same names with corresponding values. -/
structure Scopes.Alike (L : Likeness) (s s' : Scopes) : Prop where
  globals : Dict.Alike L.value s.globals s'.globals
  frames : List.Forall₂ (Dict.Alike L.value) s.frames s'.frames

/-- The payload a slot keeps. -/
def Slot.payload : Slot → Payload Value
  | .text t => .text t
  | .list l => .list l
  | .map m => .map m

theorem Payload.payload_of_slot? {d : Payload Value} {s : Slot} (h : d.slot? = some s) :
    s.payload = d := by
  cases d with
  | text t => exact Option.some.inj h ▸ rfl
  | list l => exact Option.some.inj h ▸ rfl
  | map m => exact Option.some.inj h ▸ rfl
  | _ => exact absurd h (by simp [slot?])

/-- Two slots that keep the payloads of corresponding values. -/
def Slot.Alike (L : Likeness) (s s' : Slot) : Prop := L.value (.of s.payload) (.of s'.payload)

/-- Two pools that grew by alike slots since `b` and `b'`. -/
def Pool.GrewAlike (L : Likeness) (b b' p p' : Pool) : Prop :=
  ∃ new new', p.slots = b.slots ++ new ∧ p'.slots = b'.slots ++ new' ∧
    List.Forall₂ (Slot.Alike L) new.toList new'.toList

/-- Two contexts with alike scopes whose logs and pools grew alike since `b` and `b'`. -/
structure Context.Alike (L : Likeness) (b b' c c' : Context) : Prop where
  scopes : Scopes.Alike L c.scopes c'.scopes
  calls : ∃ lines, c.calls = b.calls ++ lines ∧ c'.calls = b'.calls ++ lines
  pool : Pool.GrewAlike L b.pool b'.pool c.pool c'.pool

/-- Contexts with alike scopes have grown alike since themselves. -/
theorem Context.Alike.start {L : Likeness} {c c' : Context}
    (h : Scopes.Alike L c.scopes c'.scopes) : Context.Alike L c c' c c' :=
  ⟨h, ⟨#[], by simp⟩, ⟨#[], #[], by simp, by simp, .nil⟩⟩

namespace Pool.GrewAlike

variable {L : Likeness} {b b' p p' : Pool}

/-- Pools that grew alike grew by the same number of slots. -/
theorem size (h : Pool.GrewAlike L b b' p p') :
    ∃ k, p.size = b.size + k ∧ p'.size = b'.size + k := by
  obtain ⟨new, new', hp, hp', hnew⟩ := h
  refine ⟨new.size, ?_, ?_⟩
  · unfold Pool.size
    rw [hp, Array.size_append]
  · have hsize : new.size = new'.size := hnew.length_eq
    unfold Pool.size
    rw [hp', Array.size_append, hsize]

theorem keep (h : Pool.GrewAlike L b b' p p') {d d' : Payload Value}
    (hslot : d.slot?.isSome = d'.slot?.isSome) (hd : L.value (.of d) (.of d')) :
    Pool.GrewAlike L b b' (p.keep d) (p'.keep d') := by
  unfold Pool.keep
  cases hs : d.slot? with
  | none =>
      rw [hs] at hslot
      have hs' : d'.slot? = none := by
        rw [← Option.not_isSome_iff_eq_none, ← hslot]
        simp
      rw [hs']
      exact h
  | some s =>
      rw [hs] at hslot
      obtain ⟨s', hs'⟩ := Option.isSome_iff_exists.mp hslot.symm
      rw [hs']
      obtain ⟨new, new', hp, hp', hnew⟩ := h
      refine ⟨new.push s, new'.push s', ?_, ?_, ?_⟩
      · show p.slots.push s = _
        rw [hp, Array.push_append]
      · show p'.slots.push s' = _
        rw [hp', Array.push_append]
      · rw [Array.toList_push, Array.toList_push]
        refine List.rel_append hnew (.cons ?_ .nil)
        unfold Slot.Alike
        rw [Payload.payload_of_slot? hs, Payload.payload_of_slot? hs']
        exact hd

end Pool.GrewAlike

namespace Scopes.Alike

variable {L : Likeness} {s s' : Scopes}

private theorem findSome?_alike {ds ds' : List (Dict Value)}
    (h : List.Forall₂ (Dict.Alike L.value) ds ds') (name : String) :
    Option.Rel L.value (ds.findSome? (Dict.get? name)) (ds'.findSome? (Dict.get? name)) := by
  induction h with
  | nil => exact .none
  | cons hd _ ih =>
      rw [List.findSome?_cons, List.findSome?_cons]
      rcases eq_or_exists_of_rel (Dict.get?_alike hd name) with ⟨hn, hn'⟩ | ⟨v, v', hv, hv', hrel⟩
      · rw [hn, hn']
        exact ih
      · rw [hv, hv']
        exact .some hrel

theorem find? (h : Scopes.Alike L s s') (name : String) :
    Option.Rel L.value (s.find? name) (s'.find? name) := by
  unfold Scopes.find?
  rcases eq_or_exists_of_rel (findSome?_alike h.frames name) with ⟨hn, hn'⟩ | ⟨v, v', hv, hv', hrel⟩
  · rw [hn, hn']
    exact Dict.get?_alike h.globals name
  · rw [hv, hv']
    exact .some hrel

theorem define (h : Scopes.Alike L s s') (name : String) {v v' : Value} (hv : L.value v v') :
    Scopes.Alike L (s.define name v) (s'.define name v') := by
  obtain ⟨globals, frames⟩ := s
  obtain ⟨globals', frames'⟩ := s'
  cases h.frames with
  | nil => exact ⟨Dict.insert_alike h.globals name hv, .nil⟩
  | cons hd hds => exact ⟨h.globals, .cons (Dict.insert_alike hd name hv) hds⟩

theorem push (h : Scopes.Alike L s s') : Scopes.Alike L s.push s'.push :=
  ⟨h.globals, .cons .nil h.frames⟩

theorem pop (h : Scopes.Alike L s s') : Scopes.Alike L s.pop s'.pop := by
  obtain ⟨globals, frames⟩ := s
  obtain ⟨globals', frames'⟩ := s'
  cases h.frames with
  | nil => exact ⟨h.globals, .nil⟩
  | cons _ hds => exact ⟨h.globals, hds⟩

end Scopes.Alike

end TemplateExpr
