/-
Enough depth for an answer is enough for good.

Every expression is alike itself for the likeness that is equality, and equality is
kept by every function of values.  So a run with more depth answers exactly as one with
less, down to the pool and the log, and what an expression evaluates to or renders as
can be spoken of without a depth.

This is the one use of the simulation where nothing is changed.  It is also the one
everything else rests on: without it, two runs of different depth could not be put one
behind the other.
-/
import TemplateExpr.Proofs.Simulation.Equivalence
import TemplateExpr.Proofs.Simulation.Eval

namespace TemplateExpr

/-- Values and texts correspond to themselves only. -/
def Likeness.same : Likeness := ⟨Eq, Eq, fun _ => True⟩

/-! ### Alike for equality is equal -/

section

variable {ε : Type} {R : ε → ε → Prop}

theorem eq_of_forall₂ {l l' : List ε} (h : List.Forall₂ R l l') (hR : ∀ a ∈ l, ∀ b, R a b → a = b) :
    l = l' := by
  induction h with
  | nil => rfl
  | cons hab _ ih =>
      rw [hR _ List.mem_cons_self _ hab, ih fun a ha => hR a (List.mem_cons_of_mem _ ha)]

theorem Entries.Alike.eq {es es' : List (String × ε)} (h : Entries.Alike R es es')
    (hR : ∀ x ∈ es, ∀ b, R x.2 b → x.2 = b) : es = es' := by
  refine eq_of_forall₂ h ?_
  intro x hx x' hrel
  obtain ⟨key, hab⟩ := hrel
  exact congrArg (key, ·) (hR _ hx _ hab)

theorem Dict.Alike.eq {bound : Option String} {d d' : Dict ε bound} (h : Dict.Alike R d d')
    (hR : ∀ a ∈ d.values, ∀ b, R a b → a = b) : d = d' := by
  induction h with
  | nil => rfl
  | cons hab _ ih =>
      rw [values_cons] at hR
      rw [hR _ List.mem_cons_self _ hab, ih fun a ha => hR a (List.mem_cons_of_mem _ ha)]

theorem CallArgs.Alike.eq {args args' : CallArgs ε} (h : CallArgs.Alike R args args')
    (hR : args.All fun e => ∀ e', R e e' → e = e') : args = args' := by
  obtain ⟨hps, hks⟩ := h
  rw [eq_of_forall₂ hps hR.1, Dict.Alike.eq hks hR.2]

theorem eq_of_rel {o o' : Option ε} (h : Option.Rel R o o') (hR : ∀ a ∈ o, ∀ b, R a b → a = b) :
    o = o' := by
  cases h with
  | none => rfl
  | some hab => rw [hR _ rfl _ hab]

end

theorem Dict.eq_of_alike {α : Type} {d d' : Dict α} (h : Dict.Alike Eq d d') : d = d' :=
  Dict.Alike.eq h fun _ _ _ heq => heq

theorem Scopes.eq_of_alike {s s' : Scopes} (h : Scopes.Alike .same s s') : s = s' := by
  obtain ⟨globals, frames⟩ := s
  obtain ⟨globals', frames'⟩ := s'
  obtain rfl : globals = globals' := Dict.eq_of_alike h.globals
  obtain rfl : frames = frames' := eq_of_forall₂ h.frames fun _ _ _ hd => Dict.eq_of_alike hd
  rfl

/-- The same tree over the same constants is the same expression. -/
theorem Expr.eq_of_alike {e e' : Expr} (h : Expr.Alike .same e e') : e = e' := by
  induction e using Expr.induct generalizing e' with
  | const v =>
      cases h with
      | const hv => rw [show v = _ from hv]
  | var name =>
      cases h with
      | var => rfl
  | subscript base indices hbase hindices =>
      cases h with
      | subscript hb his => rw [hbase hb, eq_of_forall₂ his fun i hi _ => hindices i hi]
  | filtered base chain hbase hchain =>
      cases h with
      | filtered hb hls =>
          rw [hbase hb, eq_of_forall₂ hls]
          intro link hlink link' hrel
          obtain ⟨-, hargs⟩ := hrel
          rw [hargs.eq (hchain _ hlink)]
  | unary op e he =>
      cases h with
      | unary _ h => rw [he h]
  | binary op l r hl hr =>
      cases h with
      | binary _ h h' => rw [hl h, hr h']
  | tuple items hitems =>
      cases h with
      | tuple hes => rw [eq_of_forall₂ hes fun e he _ => hitems e he]
  | dict entries hentries =>
      cases h with
      | dict hes => rw [Entries.Alike.eq hes fun x hx _ => hentries x hx]
  | test e t args he hargs =>
      cases h with
      | test _ h h' => rw [he h, h'.eq hargs]
  | call f args hf hargs =>
      cases h with
      | call h h' => rw [hf h, h'.eq hargs]
  | full body guard hbody hguard =>
      cases h with
      | full hb hg =>
          rw [eq_of_rel hb fun e he _ => hbody e he, eq_of_rel hg]
          intro g hmem g' hrel
          obtain ⟨ht, ho⟩ := hrel
          exact congrArg₂ Guard.mk ((hguard _ hmem).1 ht)
            (eq_of_rel ho fun e he _ => (hguard _ hmem).2 e he)

theorem Slot.of_payload_injective {s s' : Slot}
    (h : Value.of s.payload = Value.of s'.payload) : s = s' := by
  cases s <;> cases s' <;> simp_all [Value.of, payload]

private theorem values_eq {vs vs' : List Value} (h : List.Forall₂ Likeness.same.value vs vs') :
    vs = vs' :=
  eq_of_forall₂ h fun _ _ _ hv => hv

private theorem slots_eq {l l' : List Slot} (h : List.Forall₂ (Slot.Alike .same) l l') : l = l' :=
  eq_of_forall₂ h fun _ _ _ hs => Slot.of_payload_injective hs

/-- Contexts that grew alike for equality share their scopes, new lines and new slots. -/
theorem Context.Alike.grown {b b' c c' : Context} (h : Context.Alike .same b b' c c') :
    c.scopes = c'.scopes ∧ ∃ lines new,
      (c.calls = b.calls ++ lines ∧ c'.calls = b'.calls ++ lines) ∧
      c.pool.slots = b.pool.slots ++ new ∧ c'.pool.slots = b'.pool.slots ++ new := by
  obtain ⟨lines, hcalls⟩ := h.calls
  obtain ⟨new, new', hpool, hpool', hnew⟩ := h.pool
  obtain rfl : new = new' := Array.toList_inj.mp (slots_eq hnew)
  exact ⟨Scopes.eq_of_alike h.scopes, lines, new, hcalls, hpool, hpool'⟩

/-- Contexts that grew alike from one context are the same. -/
theorem Context.eq_of_alike {b c c' : Context} (h : Context.Alike .same b b c c') : c = c' := by
  obtain ⟨hscopes, lines, new, ⟨hcalls, hcalls'⟩, hpool, hpool'⟩ := h.grown
  obtain ⟨scopes, ⟨slots⟩, calls⟩ := c
  obtain ⟨scopes', ⟨slots'⟩, calls'⟩ := c'
  obtain rfl : scopes = scopes' := hscopes
  obtain rfl : calls = calls' := hcalls.trans hcalls'.symm
  obtain rfl : slots = slots' := hpool.trans hpool'.symm
  rfl

/-! ### Equality is kept

That equality is respected says nothing about values.  It is what turns the simulation
into a statement about depth: the two runs it relates may have different depths.
-/

theorem Likeness.same_respects (w : CharWidth) : Likeness.same.Respects w w where
  slot := fun h => congrArg (fun v : Value => v.data.slot?.isSome) h
  isEmpty := fun h => congrArg Value.isEmpty h
  truthy := fun h => congrArg Value.truthy h
  toInt := fun h default => congrArg (fun v : Value => v.toInt default) h
  asBuiltin? := fun h => congrArg Value.asBuiltin? h
  asFunction? := fun h => congrArg Value.asFunction? h
  asMap? := by
    intro v v' h
    obtain rfl : v = v' := h
    exact rel_refl fun m _ key => rel_refl fun v _ => rfl
  memberOf := fun hv hs => congrArg₂ Value.memberOf hv hs
  empty := rfl
  bool := fun _ => rfl
  ofText := fun h => congrArg Value.ofText h
  list := by
    intro vs vs' h
    rw [values_eq h]
    rfl
  map := by
    intro es es' h
    rw [Dict.eq_of_alike h]
    rfl
  progression := fun _ _ _ => rfl
  made := fun h => congrArg Value.asTemporary h
  asTemporary := fun h => congrArg Value.asTemporary h
  setParent := fun hv hp =>
    congrArg₂ (fun v p : Value => if p.extendsLifetime then v.setParent p else v) hv hp
  reading := fun hb hk =>
    ⟨congrArg₂ (fun b k : Value => (b.reading k).1) hb hk,
      congrArg₂ (fun b k : Value => (b.reading k).2) hb hk⟩
  unary := fun op _ _ h => congrArg (fun v => Value.of (op.apply v)) h
  binary := fun op _ _ _ _ hv hu => congrArg₂ (fun v u => Value.of (op.apply v u)) hv hu
  scratch := by
    intro v v' d d' hv hd
    obtain rfl : v = v' := hv
    obtain rfl : d = d' := congrArg Value.data hd
    rfl
  concat := fun hv hu => congrArg₂ (Value.concat w) hv hu
  filter := by
    intro f v v' args args' _ hv h
    obtain rfl : v = v' := hv
    have hargs : List.Forall₂ Likeness.same.value args args' := h.imp fun _ _ ha => ha.elim id id
    rw [values_eq hargs]
    rfl
  emptyText := rfl
  write := fun ht hv => congrArg₂ Text.write ht hv

/-- A run with more depth follows one with less, whatever the pools and logs they start with. -/
theorem runs_grow (env : Env) (b b' : Context) {n m : Nat} (h : n ≤ m) :
    Evaluator.Alike .same b b' ⟨evalTo env n, renderTo env n⟩ ⟨evalTo env m, renderTo env m⟩ :=
  runs_follow (Likeness.same_respects env.width)
    (Library.Alike.refl (fun _ => rfl) (fun _ => trivial) env.library) b b' h

theorem Expr.Alike.same (e : Expr) : Expr.Alike .same e e :=
  Expr.Alike.refl (fun _ => rfl) (fun _ => trivial) e

/-- Contexts with the same scopes are alike, whatever their pools and logs hold. -/
theorem Context.Alike.start_same {c c' : Context} (h : c'.scopes = c.scopes) :
    Context.Alike .same c c' c c' :=
  Context.Alike.start (by rw [h]; exact Scopes.Alike.refl (fun _ => rfl) c.scopes)

variable {env : Env} {e : Expr} {c c₁ c₁' : Context}

theorem evalTo_mono {n m : Nat} (h : n ≤ m) {v : Value} (hrun : evalTo env n e c = some (v, c₁)) :
    evalTo env m e c = some (v, c₁) := by
  obtain ⟨v', c₁', hrun', hv, hc⟩ :=
    (runs_grow env c c h).eval e e (.same e) c c (.start_same rfl) v c₁ hrun
  rw [show v = v' from hv, Context.eq_of_alike hc]
  exact hrun'

theorem renderTo_mono {n m : Nat} (h : n ≤ m) {t t₁ : Text}
    (hrun : renderTo env n e t c = some (t₁, c₁)) : renderTo env m e t c = some (t₁, c₁) := by
  obtain ⟨t₁', c₁', hrun', ht, hc⟩ :=
    (runs_grow env c c h).render (.same e) rfl c c (.start_same rfl) t₁ c₁ hrun
  rw [show t₁ = t₁' from ht, Context.eq_of_alike hc]
  exact hrun'

/-! ### Evaluating and rendering without a depth

From here on an expression evaluates or renders, and how deep it went is forgotten.  At
most one value is possible, since two depths have a greater one.
-/

/-- With enough depth, an expression evaluates to a value and leaves a context. -/
def Evaluates (env : Env) (e : Expr) (c : Context) (v : Value) (c₁ : Context) : Prop :=
  ∃ depth, evalTo env depth e c = some (v, c₁)

/-- With enough depth, an expression turns a buffer into another and leaves a context. -/
def Renders (env : Env) (e : Expr) (buffer : Text) (c : Context) (t : Text) (c₁ : Context) : Prop :=
  ∃ depth, renderTo env depth e buffer c = some (t, c₁)

/-- An expression evaluates to one value at most. -/
theorem Evaluates.unique {v v' : Value} (h : Evaluates env e c v c₁)
    (h' : Evaluates env e c v' c₁') : v = v' ∧ c₁ = c₁' := by
  obtain ⟨n, hn⟩ := h
  obtain ⟨m, hm⟩ := h'
  have hn' := evalTo_mono (Nat.le_max_left n m) hn
  have hm' := evalTo_mono (Nat.le_max_right n m) hm
  rw [hn'] at hm'
  exact Prod.mk.inj (Option.some.inj hm')

/-- An expression renders as one text at most. -/
theorem Renders.unique {b t t' : Text} (h : Renders env e b c t c₁)
    (h' : Renders env e b c t' c₁') : t = t' ∧ c₁ = c₁' := by
  obtain ⟨n, hn⟩ := h
  obtain ⟨m, hm⟩ := h'
  have hn' := renderTo_mono (Nat.le_max_left n m) hn
  have hm' := renderTo_mono (Nat.le_max_right n m) hm
  rw [hn'] at hm'
  exact Prod.mk.inj (Option.some.inj hm')

end TemplateExpr
