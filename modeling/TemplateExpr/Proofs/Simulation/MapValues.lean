/-
Expressions with their values changed.

`mapValues` changes every constant of an expression and every default and answer of a
library, and leaves the rest of the tree alone.  Where each value corresponds to what it
is changed to, the expression is alike the changed one, so what is known of alike
expressions can be said about one expression and its image.

The function that changes values is arbitrary and so is the likeness.  Converting widths
is the case this is for.
-/
import TemplateExpr.Proofs.Simulation.Over
import TemplateExpr.Proofs.Values.Recast

namespace TemplateExpr

/-! ### Calls, links and guards with their expressions changed -/

section

variable {ε ε' : Type} (f : ε → ε')

def CallArgs.map (args : CallArgs ε) : CallArgs ε' :=
  ⟨args.positional.map f, Dict.mapValues f args.keyword⟩

def FilterLink.map (link : FilterLink ε) : FilterLink ε' := ⟨link.filter, link.args.map f⟩

def Guard.map (guard : Guard ε) : Guard ε' := ⟨f guard.test, guard.otherwise.map f⟩

end

/-! ### Expressions

The recursion has one function for each place an expression may stand in.  All of them
but `Expr.mapValues` are maps over a list, a call or a link, as the equations say.
-/

mutual

/-- An expression with every constant changed. -/
def Expr.mapValues (g : Value → Value) : Expr → Expr
  | .const v => .const (g v)
  | .var name => .var name
  | .subscript base indices => .subscript (base.mapValues g) (Expr.mapEach g indices)
  | .filtered base chain => .filtered (base.mapValues g) (Expr.mapChain g chain)
  | .unary op e => .unary op (e.mapValues g)
  | .binary op l r => .binary op (l.mapValues g) (r.mapValues g)
  | .tuple items => .tuple (Expr.mapEach g items)
  | .dict entries => .dict (Expr.mapEntries g entries)
  | .test subject t args => .test (subject.mapValues g) t (Expr.mapArgs g args)
  | .call callee args => .call (callee.mapValues g) (Expr.mapArgs g args)
  | .full body guard => .full (Expr.mapOption g body) (Expr.mapGuard? g guard)
termination_by structural e => e

def Expr.mapEach (g : Value → Value) : List Expr → List Expr
  | [] => []
  | e :: es => e.mapValues g :: Expr.mapEach g es
termination_by structural es => es

def Expr.mapEntries (g : Value → Value) : List (String × Expr) → List (String × Expr)
  | [] => []
  | e :: entries => Expr.mapEntry g e :: Expr.mapEntries g entries
termination_by structural entries => entries

def Expr.mapEntry (g : Value → Value) : String × Expr → String × Expr
  | (key, e) => (key, e.mapValues g)
termination_by structural e => e

def Expr.mapDict (g : Value → Value) : {bound : Option String} → Dict Expr bound → Dict Expr bound
  | _, .nil => .nil
  | _, .cons key e above d => .cons key (e.mapValues g) above (Expr.mapDict g d)
termination_by structural _ d => d

def Expr.mapArgs (g : Value → Value) : CallArgs Expr → CallArgs Expr
  | ⟨positional, keyword⟩ => ⟨Expr.mapEach g positional, Expr.mapDict g keyword⟩
termination_by structural args => args

def Expr.mapChain (g : Value → Value) : List (FilterLink Expr) → List (FilterLink Expr)
  | [] => []
  | link :: chain => Expr.mapLink g link :: Expr.mapChain g chain
termination_by structural chain => chain

def Expr.mapLink (g : Value → Value) : FilterLink Expr → FilterLink Expr
  | ⟨filter, args⟩ => ⟨filter, Expr.mapArgs g args⟩
termination_by structural link => link

def Expr.mapOption (g : Value → Value) : Option Expr → Option Expr
  | none => none
  | some e => some (e.mapValues g)
termination_by structural e => e

def Expr.mapGuard? (g : Value → Value) : Option (Guard Expr) → Option (Guard Expr)
  | none => none
  | some guard => some (Expr.mapGuard g guard)
termination_by structural guard => guard

def Expr.mapGuard (g : Value → Value) : Guard Expr → Guard Expr
  | ⟨cond, otherwise⟩ => ⟨cond.mapValues g, Expr.mapOption g otherwise⟩
termination_by structural guard => guard

end

namespace Expr

variable (g : Value → Value)

theorem mapEach_eq (es : List Expr) : mapEach g es = es.map (mapValues g) :=
  eq_map_of_cons rfl (fun _ _ => rfl) es

theorem mapEntries_eq (entries : List (String × Expr)) :
    mapEntries g entries = entries.map fun e => (e.1, e.2.mapValues g) :=
  eq_map_of_cons rfl (fun e _ => by cases e; rfl) entries

theorem mapDict_eq {bound : Option String} (d : Dict Expr bound) :
    mapDict g d = Dict.mapValues (mapValues g) d := by
  induction d with
  | nil => rfl
  | cons key e above d ih => exact congrArg (Dict.cons key (e.mapValues g) above) ih

theorem mapArgs_eq (args : CallArgs Expr) : mapArgs g args = args.map (mapValues g) := by
  obtain ⟨positional, keyword⟩ := args
  rw [mapArgs, mapEach_eq, mapDict_eq]
  rfl

theorem mapLink_eq (link : FilterLink Expr) : mapLink g link = link.map (mapValues g) := by
  obtain ⟨filter, args⟩ := link
  rw [mapLink, mapArgs_eq]
  rfl

theorem mapChain_eq (chain : List (FilterLink Expr)) :
    mapChain g chain = chain.map (FilterLink.map (mapValues g)) :=
  eq_map_of_cons rfl (fun link chain => by rw [mapChain, mapLink_eq]) chain

theorem mapOption_eq (e : Option Expr) : mapOption g e = e.map (mapValues g) := by
  cases e <;> rfl

theorem mapGuard?_eq (guard : Option (Guard Expr)) :
    mapGuard? g guard = guard.map (Guard.map (mapValues g)) := by
  cases guard with
  | none => rfl
  | some guard =>
      obtain ⟨test, otherwise⟩ := guard
      rw [mapGuard?, mapGuard, mapOption_eq]
      rfl

end Expr

/-! ### Libraries and scopes -/

section

variable (g : Value → Value)

def Formal.mapValues (f : Formal) : Formal := { f with fallback := f.fallback.map g }

def Behaviour.mapValues : Behaviour → Behaviour
  | .answer v => .answer (g v)
  | .compute formals body => .compute (formals.map (Formal.mapValues g)) (body.mapValues g)
  | .emit formals writes => .emit (formals.map (Formal.mapValues g)) (writes.map (Expr.mapValues g))

def FunctionDef.mapValues (f : FunctionDef) : FunctionDef :=
  { f with behaviour := f.behaviour.mapValues g }

/-- A library with every value in it changed, the defaults of parameters included. -/
def Library.mapValues (l : Library) : Library := ⟨l.functions.map (FunctionDef.mapValues g)⟩

/-- A scope chain with every value in it changed. -/
def Scopes.mapValues (s : Scopes) : Scopes :=
  ⟨Dict.mapValues g s.globals, s.frames.map (Dict.mapValues g)⟩

theorem Library.find?_mapValues (l : Library) (id : Nat) :
    (l.mapValues g).find? id = (l.find? id).map (FunctionDef.mapValues g) :=
  Array.getElem?_map

end

/-! ### An expression is alike its image

An expression that is alike itself for the likeness `only` has the property `p` at every
constant.  So it is enough to know what becomes of a single value with that property:
the induction over expressions hands the correspondence on from constants to whole
trees.
-/

section

variable {α β : Type} {R : α → α → Prop} {Q : α → β → Prop} {f : α → β}

theorem forall₂_map_of_same {l : List α} (h : List.Forall₂ R l l)
    (hQ : ∀ a ∈ l, R a a → Q a (f a)) : List.Forall₂ Q l (l.map f) := by
  rw [List.forall₂_map_right_iff, List.forall₂_same]
  exact fun a ha => hQ a ha (List.forall₂_same.mp h a ha)

theorem rel_map_of_same {o : Option α} (h : Option.Rel R o o) (hQ : ∀ a ∈ o, R a a → Q a (f a)) :
    Option.Rel Q o (o.map f) := by
  cases o with
  | none => exact .none
  | some a =>
      cases h with
      | some ha => exact .some (hQ a rfl ha)

theorem Entries.Alike.map_of_same {es : List (String × α)} (h : Entries.Alike R es es)
    (hQ : ∀ x ∈ es, R x.2 x.2 → Q x.2 (f x.2)) :
    Entries.Alike Q es (es.map fun x => (x.1, f x.2)) := by
  refine forall₂_map_of_same h fun x hx hsame => ?_
  obtain ⟨key, a⟩ := x
  cases hsame with
  | mk _ ha => exact ⟨key, hQ (key, a) hx ha⟩

theorem Dict.Alike.map_of_same {bound : Option String} {d : Dict α bound} (h : Dict.Alike R d d)
    (hQ : ∀ a ∈ d.values, R a a → Q a (f a)) : Dict.Alike Q d (Dict.mapValues f d) := by
  induction d with
  | nil => exact .nil
  | cons key a above d ih =>
      cases h with
      | cons ha hd =>
          exact .cons (hQ a List.mem_cons_self ha)
            (ih hd fun b hb => hQ b (List.mem_cons_of_mem _ hb))

theorem CallArgs.Alike.map_of_same {args : CallArgs α} (h : CallArgs.Alike R args args)
    (hQ : args.All fun a => R a a → Q a (f a)) : CallArgs.Alike Q args (args.map f) := by
  obtain ⟨positional, keyword⟩ := args
  cases h with
  | mk hpositional hkeyword =>
      exact ⟨forall₂_map_of_same hpositional hQ.1, Dict.Alike.map_of_same hkeyword hQ.2⟩

end

section

variable {p : Value → Bool} {allows : Filter → Prop} {L : Likeness} {g : Value → Value}
  (hvalue : ∀ v, p v = true → L.value v (g v))

include hvalue

theorem Scopes.Over.alike_mapValues {s : Scopes} (h : s.Over p) :
    Scopes.Alike L s (s.mapValues g) := by
  have hdict : ∀ {d : Dict Value}, Dict.Alike (Likeness.only p fun _ => True).value d d →
      Dict.Alike L.value d (Dict.mapValues g d) :=
    fun hd => Dict.Alike.map_of_same hd fun v _ hv => hvalue v hv.2
  exact ⟨hdict h.globals, forall₂_map_of_same h.frames fun _ _ hd => hdict hd⟩

theorem Formal.Alike.mapValues {f : Formal} (h : Formal.Alike (.only p allows) f f) :
    Formal.Alike L f (f.mapValues g) :=
  ⟨rfl, rfl, rel_map_of_same h.fallback fun v _ hv => hvalue v hv.2⟩

variable (hallows : ∀ f, allows f → L.allows f)

include hallows

/-- **An expression is alike the one whose values are changed to corresponding ones.** -/
theorem Expr.Over.alike_mapValues {e : Expr} (h : e.Over p allows) :
    Expr.Alike L e (e.mapValues g) := by
  induction e using Expr.induct with
  | const v =>
      cases h with
      | const hv => exact .const (hvalue v hv.2)
  | var name => exact .var name
  | subscript base indices hbase hindices =>
      cases h with
      | subscript hb his =>
          rw [mapValues, mapEach_eq]
          exact .subscript (hbase hb) (forall₂_map_of_same his hindices)
  | filtered base chain hbase hchain =>
      cases h with
      | filtered hb hls =>
          rw [mapValues, mapChain_eq]
          refine .filtered (hbase hb) (forall₂_map_of_same hls fun link hlink hsame => ?_)
          obtain ⟨filter, args⟩ := link
          cases hsame with
          | mk hf hargs => exact ⟨hallows filter hf, hargs.map_of_same (hchain _ hlink)⟩
  | unary op e he =>
      cases h with
      | unary _ h => exact .unary op (he h)
  | binary op l r hl hr =>
      cases h with
      | binary _ h h' => exact .binary op (hl h) (hr h')
  | tuple items hitems =>
      cases h with
      | tuple hes =>
          rw [mapValues, mapEach_eq]
          exact .tuple (forall₂_map_of_same hes hitems)
  | dict entries hentries =>
      cases h with
      | dict hes =>
          rw [mapValues, mapEntries_eq]
          exact .dict (Entries.Alike.map_of_same hes hentries)
  | test e t args he hargs =>
      cases h with
      | test _ h h' =>
          rw [mapValues, mapArgs_eq]
          exact .test t (he h) (h'.map_of_same hargs)
  | call f args hf hargs =>
      cases h with
      | call h h' =>
          rw [mapValues, mapArgs_eq]
          exact .call (hf h) (h'.map_of_same hargs)
  | full body guard hbody hguard =>
      cases h with
      | full hb hg =>
          rw [mapValues, mapOption_eq, mapGuard?_eq]
          refine .full (rel_map_of_same hb hbody) (rel_map_of_same hg fun g hmem hsame => ?_)
          obtain ⟨test, otherwise⟩ := g
          cases hsame with
          | mk ht ho => exact ⟨(hguard _ hmem).1 ht, rel_map_of_same ho (hguard _ hmem).2⟩

theorem Library.Over.alike_mapValues {l : Library} (h : l.Over p allows) :
    Library.Alike L l (l.mapValues g) := by
  intro id
  rw [find?_mapValues]
  refine rel_map_of_same (h id) fun f _ hf => ⟨rfl, rfl, ?_⟩
  have hformals : ∀ {fs : List Formal}, List.Forall₂ (Formal.Alike (.only p allows)) fs fs →
      List.Forall₂ (Formal.Alike L) fs (fs.map (Formal.mapValues g)) :=
    fun hfs => forall₂_map_of_same hfs fun _ _ hf => hf.mapValues hvalue
  obtain ⟨tag, origin, behaviour⟩ := f
  have hbehaviour := hf.behaviour
  cases behaviour with
  | answer v =>
      cases hbehaviour with
      | answer hv => exact .answer (hvalue v hv.2)
  | compute formals body =>
      cases hbehaviour with
      | compute hfs he =>
          exact .compute (hformals hfs) (Expr.Over.alike_mapValues hvalue hallows he)
  | emit formals writes =>
      cases hbehaviour with
      | emit hfs hes =>
          exact .emit (hformals hfs)
            (forall₂_map_of_same hes fun _ _ he => Expr.Over.alike_mapValues hvalue hallows he)

end

end TemplateExpr
