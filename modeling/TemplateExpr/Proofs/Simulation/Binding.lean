/-
Alike calls are bound alike.

Binding looks at the names of parameters, at whether they are mandatory, at which
keywords a call has, at how many positional arguments, and at whether a default is
empty.  It never looks at an argument, so calls with related arguments to alike
parameters put related things under the same names.
-/
import TemplateExpr.Proofs.Simulation.Alike

namespace TemplateExpr

/-! ### Parts of related lists

Binding filters, splits and zips lists of parameters.  What it asks of a parameter has
the same answer for one that is alike, so it takes related lists apart at the same
places.
-/

section

variable {α β γ δ : Type} {R : α → β → Prop} {Q : γ → δ → Prop} {l : List α} {l' : List β}
  {p : α → Bool} {p' : β → Bool}

theorem filter_alike (h : List.Forall₂ R l l') (hp : ∀ a b, R a b → p a = p' b) :
    List.Forall₂ R (l.filter p) (l'.filter p') :=
  List.rel_filter (fun a b hab => by simp only [hp a b hab]) h

theorem takeWhile_alike (h : List.Forall₂ R l l') (hp : ∀ a b, R a b → p a = p' b) :
    List.Forall₂ R (l.takeWhile p) (l'.takeWhile p') := by
  induction h with
  | nil => exact .nil
  | cons hab _ ih =>
      rw [List.takeWhile_cons, List.takeWhile_cons, hp _ _ hab]
      split
      · exact .cons hab ih
      · exact .nil

theorem dropWhile_alike (h : List.Forall₂ R l l') (hp : ∀ a b, R a b → p a = p' b) :
    List.Forall₂ R (l.dropWhile p) (l'.dropWhile p') := by
  induction h with
  | nil => exact .nil
  | cons hab hrest ih =>
      rw [List.dropWhile_cons, List.dropWhile_cons, hp _ _ hab]
      split
      · exact ih
      · exact .cons hab hrest

theorem filterMap_alike {f : α → Option γ} {f' : β → Option δ} (h : List.Forall₂ R l l')
    (hf : ∀ a b, R a b → Option.Rel Q (f a) (f' b)) :
    List.Forall₂ Q (l.filterMap f) (l'.filterMap f') :=
  List.rel_filterMap (fun a b hab => hf a b hab) h

theorem map_eq_of_alike {f : α → γ} {f' : β → γ} (h : List.Forall₂ R l l')
    (hf : ∀ a b, R a b → f a = f' b) : l.map f = l'.map f' := by
  induction h with
  | nil => rfl
  | cons hab _ ih => rw [List.map_cons, List.map_cons, hf _ _ hab, ih]

theorem getElem?_alike (h : List.Forall₂ R l l') (i : Nat) : Option.Rel R l[i]? l'[i]? := by
  induction h generalizing i with
  | nil => exact .none
  | cons hab _ ih =>
      cases i with
      | zero => exact .some hab
      | succ i => exact ih i

theorem map_rel {o : Option α} {o' : Option β} {f : α → γ} {f' : β → δ} (h : Option.Rel R o o')
    (hf : ∀ a b, R a b → Q (f a) (f' b)) : Option.Rel Q (o.map f) (o'.map f') := by
  cases h with
  | none => exact .none
  | some hab => exact .some (hf _ _ hab)

theorem getD_rel {o : Option α} {o' : Option β} {a : α} {b : β} (h : Option.Rel R o o')
    (hab : R a b) : R (o.getD a) (o'.getD b) := by
  cases h with
  | none => exact hab
  | some hcd => exact hcd

end

/-! ### Outcomes of binding

Defaults are values and arguments are anything, so they are related in two ways.  Which
of the two a name is bound to is the same on both sides.
-/

/-- The same kind of thing bound: related arguments, or corresponding defaults. -/
inductive Bound.Alike {ε ε' : Type} (L : Likeness) (R : ε → ε' → Prop) : Bound ε → Bound ε' → Prop
  | given {e : ε} {e' : ε'} (he : R e e') : Alike L R (.given e) (.given e')
  | fallback {v v' : Value} (hv : L.value v v') : Alike L R (.fallback v) (.fallback v')

/-- Two outcomes with related things under the same names and the same parameters missing. -/
structure Binding.Alike {ε ε' : Type} (L : Likeness) (R : ε → ε' → Prop) (b : Binding ε)
    (b' : Binding ε') : Prop where
  args : Dict.Alike (Bound.Alike L R) b.args b'.args
  extraPositional : List.Forall₂ R b.extraPositional b'.extraPositional
  extraKeyword : Dict.Alike R b.extraKeyword b'.extraKeyword
  missing : b.missing = b'.missing

section

variable {ε ε' : Type} {L : Likeness} {R : ε → ε' → Prop} {f f' : Formal} {fs fs' : List Formal}
  {keyword : Dict ε} {keyword' : Dict ε'}

namespace Formal.Alike

theorem isCatchAll (h : Formal.Alike L f f') : f.isCatchAll = f'.isCatchAll := by
  unfold Formal.isCatchAll
  rw [h.name]

theorem isNamed (h : Formal.Alike L f f') (hk : Dict.Alike R keyword keyword') :
    f.isNamed keyword = f'.isNamed keyword' := by
  unfold Formal.isNamed
  rw [h.isCatchAll, h.name, Dict.contains_alike hk]

theorem isFree (h : Formal.Alike L f f') (hk : Dict.Alike R keyword keyword') :
    f.isFree keyword = f'.isFree keyword' := by
  unfold Formal.isFree
  rw [h.isCatchAll, h.name, Dict.contains_alike hk]

theorem default? (hempty : ∀ v v', L.value v v' → v.isEmpty = v'.isEmpty)
    (h : Formal.Alike L f f') : Option.Rel L.value f.default? f'.default? := by
  unfold Formal.default?
  rw [h.mandatory]
  split
  · exact .none
  · rcases eq_or_exists_of_rel h.fallback with ⟨hn, hn'⟩ | ⟨v, v', hv, hv', hrel⟩
    · rw [hn, hn']
      exact .none
    · rw [hv, hv', Option.filter_some, Option.filter_some, hempty v v' hrel]
      split
      · exact .some hrel
      · exact .none

end Formal.Alike

/-! ### Windows -/

/-- Two windows over alike parameters. -/
structure Window.Alike (L : Likeness) (w w' : Window) : Prop where
  before : List.Forall₂ (Formal.Alike L) w.before w'.before
  inside : List.Forall₂ (Formal.Alike L) w.inside w'.inside
  after : List.Forall₂ (Formal.Alike L) w.after w'.after

namespace Window

theorem widen_alike (n : Nat) {w w' : Window} (h : Window.Alike L w w') :
    Window.Alike L (w.widen n) (w'.widen n) := by
  induction n generalizing w w' with
  | zero => exact h
  | succ n ih =>
      obtain ⟨before, inside, after⟩ := w
      obtain ⟨before', inside', after'⟩ := w'
      obtain ⟨hbefore, hinside, hafter⟩ := h
      cases hbefore with
      | cons hf hrest => exact ih ⟨hrest, .cons hf hinside, hafter⟩
      | nil =>
          cases hafter with
          | cons hf hrest => exact ih ⟨.nil, List.rel_append hinside (.cons hf .nil), hrest⟩
          | nil => exact ⟨.nil, hinside, .nil⟩

theorem free_alike (hfs : List.Forall₂ (Formal.Alike L) fs fs')
    (hk : Dict.Alike R keyword keyword') :
    List.Forall₂ (Formal.Alike L) (fs.filter (·.isFree keyword)) (fs'.filter (·.isFree keyword')) :=
  filter_alike hfs fun _ _ hf => hf.isFree hk

theorem anchor?_alike (hfs : List.Forall₂ (Formal.Alike L) fs fs')
    (hk : Dict.Alike R keyword keyword') :
    Option.Rel (Window.Alike L) (anchor? fs keyword) (anchor? fs' keyword') := by
  have hfree := free_alike hfs hk
  have hopt : ∀ f f', Formal.Alike L f f' → (!f.mandatory) = !f'.mandatory := by
    intro f f' hf
    rw [hf.mandatory]
  have htake := takeWhile_alike hfree hopt
  have hdrop := dropWhile_alike hfree hopt
  have hnamed := dropWhile_alike hfs fun _ _ hf => hf.isNamed hk
  unfold anchor?
  dsimp only
  -- What the lists are made of plays no part in which of them comes first.
  revert hdrop hnamed hfree htake
  generalize fs.filter (·.isFree keyword) = free
  generalize fs'.filter (·.isFree keyword') = free'
  generalize free.dropWhile (fun f => !f.mandatory) = rest
  generalize free'.dropWhile (fun f => !f.mandatory) = rest'
  generalize fs.dropWhile (·.isNamed keyword) = unnamed
  generalize fs'.dropWhile (·.isNamed keyword') = unnamed'
  intro hfree htake hdrop hnamed
  cases hdrop with
  | cons hhead hafter => exact .some ⟨List.rel_reverse htake, .cons hhead .nil, hafter⟩
  | nil =>
      cases hnamed with
      | nil => exact .none
      | cons hfirst _ =>
          cases hfree with
          | nil => exact .none
          | cons hhead hafter =>
              simp only [hfirst.isCatchAll]
              split
              · exact .none
              · exact .some ⟨.nil, .cons hhead .nil, hafter⟩

theorem ofCount_alike (hfs : List.Forall₂ (Formal.Alike L) fs fs')
    (hk : Dict.Alike R keyword keyword') (n : Nat) :
    Window.Alike L (ofCount fs keyword n) (ofCount fs' keyword' n) := by
  have hshut : Window.Alike L (shut (fs.filter (·.isFree keyword)))
      (shut (fs'.filter (·.isFree keyword'))) := ⟨.nil, .nil, free_alike hfs hk⟩
  unfold ofCount
  cases n with
  | zero => exact hshut
  | succ n =>
      rcases eq_or_exists_of_rel (anchor?_alike hfs hk) with ⟨hn, hn'⟩ | ⟨w, w', hw, hw', hrel⟩
      · rw [hn, hn']
        exact hshut
      · rw [hw, hw']
        exact widen_alike n hrel

theorem Alike.outside {w w' : Window} (h : Window.Alike L w w') :
    List.Forall₂ (Formal.Alike L) w.outside w'.outside :=
  List.rel_append (List.rel_reverse h.before) h.after

end Window

/-! ### Entries of a binding -/

theorem namedArgs_alike (hfs : List.Forall₂ (Formal.Alike L) fs fs')
    (hk : Dict.Alike R keyword keyword') :
    Entries.Alike (Bound.Alike L R) (namedArgs fs keyword) (namedArgs fs' keyword') := by
  refine filterMap_alike (filter_alike hfs fun _ _ hf => hf.isNamed hk) ?_
  intro f f' hf
  rw [← hf.name]
  exact map_rel (Dict.get?_alike hk f.name) fun e e' he => ⟨f.name, .given he⟩

private theorem zip_given {ps : List ε} {ps' : List ε'} (hps : List.Forall₂ R ps ps')
    (names : List String) :
    Entries.Alike (Bound.Alike L R) (names.zip (ps.map .given)) (names.zip (ps'.map .given)) := by
  induction hps generalizing names with
  | nil => simp
  | cons he _ ih =>
      cases names with
      | nil => exact .nil
      | cons name names => exact .cons ⟨name, .given he⟩ (ih names)

theorem windowArgs_alike {w w' : Window} (hw : Window.Alike L w w') {ps : List ε} {ps' : List ε'}
    (hps : List.Forall₂ R ps ps') :
    Entries.Alike (Bound.Alike L R) (windowArgs w ps) (windowArgs w' ps') := by
  unfold windowArgs
  rw [map_eq_of_alike hw.inside fun _ _ hf => hf.name]
  exact zip_given hps _

theorem defaultArgs_alike (hempty : ∀ v v', L.value v v' → v.isEmpty = v'.isEmpty)
    (hfs : List.Forall₂ (Formal.Alike L) fs fs') :
    Entries.Alike (Bound.Alike L R) (defaultArgs fs) (defaultArgs fs') := by
  refine filterMap_alike hfs ?_
  intro f f' hf
  rw [← hf.name]
  exact map_rel (hf.default? hempty) fun v v' hv => ⟨f.name, .fallback hv⟩

/-- **Alike calls to alike parameters are bound alike.** -/
theorem bind_alike (hempty : ∀ v v', L.value v v' → v.isEmpty = v'.isEmpty)
    (hfs : List.Forall₂ (Formal.Alike L) fs fs') {call : CallArgs ε} {call' : CallArgs ε'}
    (hcall : CallArgs.Alike R call call') :
    Binding.Alike L R (bind fs call) (bind fs' call') := by
  obtain ⟨hps, hk⟩ := hcall
  have hw := Window.ofCount_alike hfs hk
  have hargs := fun n => Dict.ofList_alike (List.rel_append
    (List.rel_append (namedArgs_alike hfs hk) (windowArgs_alike (hw n) hps))
    (defaultArgs_alike hempty (hw n).outside))
  unfold bind
  simp only [← hps.length_eq, ← (hw _).inside.length_eq]
  refine ⟨hargs _, List.forall₂_drop _ hps, ?_, ?_⟩
  · refine Dict.ofList_alike (filter_alike (Dict.entries_alike hk) ?_)
    intro x x' hx
    obtain ⟨key, -⟩ := hx
    rw [Dict.contains_alike (hargs _)]
  · refine map_eq_of_alike (filter_alike (hw _).outside fun _ _ hf => hf.mandatory) ?_
    exact fun _ _ hf => hf.name

end

end TemplateExpr
