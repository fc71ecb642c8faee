/-
Evaluation commutes with converting texts.

In an expression, a library and scopes whose texts all have one width, and with that
target width, every value met on the way is uniform again, so no text ever meets one of
another width.  Without the filter that encodes bytes, nothing depends on which width it
is either: converting everything first and evaluating gives what evaluating and then
converting gives, with the same calls and the same slots.

A uniform run and its conversion follow each other, since uniform values and their
conversions are a likeness that evaluation keeps.  That the values on the way are
uniform is read off the same likeness, from the conversion to the width they have.
-/
import TemplateExpr.Proofs.Simulation.Flip
import TemplateExpr.Proofs.Simulation.MapValues
import TemplateExpr.Proofs.Watch
import TemplateExpr.Proofs.Widths.Converting

namespace TemplateExpr

/-- A slot with its texts in the given width. -/
def Slot.inWidth (w : CharWidth) : Slot → Slot
  | .text t => .text (t.toWidth w)
  | .list l => .list (l.map (Value.inWidth w))
  | .map m => .map (m.map (Value.inWidth w))

/-- A context with all its texts in the given width. -/
def Context.inWidth (w : CharWidth) (c : Context) : Context :=
  ⟨c.scopes.mapValues (Value.inWidth w), ⟨c.pool.slots.map (Slot.inWidth w)⟩, c.calls⟩

variable {w w' : CharWidth}

/-! ### Alike for converting is converted -/

theorem Scopes.eq_of_converting {s s' : Scopes} (h : Scopes.Alike (.converting w w') s s') :
    s' = s.mapValues (Value.inWidth w') := by
  obtain ⟨globals, frames⟩ := s
  obtain ⟨globals', frames'⟩ := s'
  have hdict : ∀ d d' : Dict Value, Dict.Alike (Likeness.converting w w').value d d' →
      Dict.mapValues (Value.inWidth w') d = d' :=
    fun d d' hd => (eq_of_alike_converting hd).2
  have hglobals : Dict.mapValues (Value.inWidth w') globals = globals' := hdict _ _ h.globals
  have hframes : frames.map (Dict.mapValues (Value.inWidth w')) = frames' := by
    rw [← List.forall₂_eq_eq_eq, List.forall₂_map_left_iff]
    exact h.frames.imp hdict
  subst hglobals hframes
  rfl

private theorem slots_eq_of_converting {new new' : List Slot}
    (h : List.Forall₂ (Slot.Alike (.converting w w')) new new') :
    new.map (Slot.inWidth w') = new' := by
  rw [← List.forall₂_eq_eq_eq, List.forall₂_map_left_iff]
  refine h.imp fun s s' hs => Slot.of_payload_injective ?_
  obtain ⟨-, heq⟩ := hs
  rw [← heq, Value.inWidth_of]
  cases s <;> rfl

/-- What grew alike from a context and its conversion is a context and its conversion. -/
theorem Context.eq_of_converting {c c₁ c₁' : Context}
    (h : Context.Alike (.converting w w') c (c.inWidth w') c₁ c₁') : c₁' = c₁.inWidth w' := by
  obtain ⟨lines, hcalls, hcalls'⟩ := h.calls
  obtain ⟨new, new', hpool, hpool', hnew⟩ := h.pool
  have hscopes := Scopes.eq_of_converting h.scopes
  have hnew : new.map (Slot.inWidth w') = new' := by
    rw [← Array.toList_inj, Array.toList_map]
    exact slots_eq_of_converting hnew
  obtain ⟨scopes, ⟨slots⟩, calls⟩ := c₁
  obtain ⟨scopes', ⟨slots'⟩, calls'⟩ := c₁'
  obtain rfl : scopes' = scopes.mapValues (Value.inWidth w') := hscopes
  obtain rfl : calls = c.calls ++ lines := hcalls
  obtain rfl : calls' = c.calls ++ lines := hcalls'
  obtain rfl : slots = c.pool.slots ++ new := hpool
  obtain rfl : slots' = c.pool.slots.map (Slot.inWidth w') ++ new' := hpool'
  unfold inWidth
  rw [Array.map_append, hnew]

/-! ### Whole evaluations

The run of the converted expression is followed by the original one and follows it, so
the two run out of depth together and one is the image of the other at every depth.
Watching for uniform values uses the conversion to the width that is there already,
which changes nothing.
-/

section

variable {allows : Filter → Prop} {l : Library} {e : Expr} {c : Context}
  (hl : l.Over (Value.uniform w) allows) (he : e.Over (Value.uniform w) allows)
  (hc : c.scopes.Over (Value.uniform w))

include hl he hc

private theorem runs_convert (hallows : ∀ f, allows f → (Likeness.converting w w').allows f)
    (depth : Nat) :
    Option.Rel (fun r r' => (Likeness.converting w w').value r.1 r'.1 ∧
        Context.Alike (.converting w w') c (c.inWidth w') r.2 r'.2)
      (evalTo ⟨w, l⟩ depth e c)
      (evalTo ⟨w', l.mapValues (Value.inWidth w')⟩ depth (e.mapValues (Value.inWidth w'))
        (c.inWidth w')) := by
  have hvalue : ∀ v, v.uniform w = true → (Likeness.converting w w').value v (v.inWidth w') :=
    fun v hv => ⟨hv, rfl⟩
  refine runs_agree ?_ ?_ ?_ ?_ depth
  · exact Likeness.converting_respects w w'
  · exact hl.alike_mapValues hvalue hallows
  · exact he.alike_mapValues hvalue hallows
  · exact hc.alike_mapValues hvalue

/-- A run and the one with everything converted answer alike, converted, or run out together. -/
private theorem evalTo_converted (hallows : ∀ f, allows f → f = .urlEncode → w = w') (depth : Nat) :
    evalTo ⟨w', l.mapValues (Value.inWidth w')⟩ depth (e.mapValues (Value.inWidth w'))
      (c.inWidth w')
      = (evalTo ⟨w, l⟩ depth e c).map fun r => (r.1.inWidth w', r.2.inWidth w') := by
  have hrel := runs_convert hl he hc hallows depth
  rcases eq_or_exists_of_rel hrel with ⟨hnone, hnone'⟩ | ⟨r, r', hrun, hrun', hvalue, hcontext⟩
  · rw [hnone, hnone']
    rfl
  · obtain ⟨-, hvalue⟩ := hvalue
    rw [hrun, hrun', Option.map_some, hvalue, ← Context.eq_of_converting hcontext]

/-- Every value on the way is uniform, since a run that checks this follows the plain run. -/
private theorem evaluatesPassing_uniform {v : Value} {c₁ : Context}
    (h : Evaluates ⟨w, l⟩ e c v c₁) :
    EvaluatesPassing (fun _ u => u.uniform w) ⟨w, l⟩ e c v c₁ := by
  obtain ⟨n, hrun⟩ := h
  have hvalue : ∀ v, v.uniform w = true → (Likeness.converting w w).value v (v.inWidth w) :=
    fun v hv => ⟨hv, rfl⟩
  have hallows : ∀ f, allows f → (Likeness.converting w w).allows f := fun _ _ _ => rfl
  have hlib := (hl.alike_mapValues hvalue hallows).flip
  have hpass : ∀ {e e' : Expr} {v v' : Value}, Expr.Alike (Likeness.converting w w).flip e e' →
      (Likeness.converting w w).flip.value v v' → true = true → v'.uniform w = true :=
    fun _ hv _ => hv.1
  have hback : Evaluator.Alike (Likeness.converting w w).flip (c.inWidth w) c
      (watched (fun _ _ => true) ⟨w, l.mapValues (Value.inWidth w)⟩ n)
      (watched (fun _ u => u.uniform w) ⟨w, l⟩ n) :=
    watched_follow_of_respects (Likeness.converting_respects w w).flip hlib hpass (Nat.le_refl n)
  rw [watched_always] at hback
  have hconverted : evalTo ⟨w, l.mapValues (Value.inWidth w)⟩ n (e.mapValues (Value.inWidth w))
      (c.inWidth w) = some (v.inWidth w, c₁.inWidth w) := by
    rw [evalTo_converted hl he hc (fun _ _ _ => rfl) n, hrun, Option.map_some]
  obtain ⟨u, c₂, hwatched, -, -⟩ := hback.eval _ e (he.alike_mapValues hvalue hallows).flip _ c
    (Context.Alike.start (hc.alike_mapValues hvalue).flip) _ _ hconverted
  have hpassing : EvaluatesPassing (fun _ u => u.uniform w) ⟨w, l⟩ e c u c₂ := ⟨n, hwatched⟩
  obtain ⟨rfl, rfl⟩ := hpassing.evaluates.unique ⟨n, hrun⟩
  exact hpassing

end

/--
**Widths are kept, and which one it is does not matter.**  Started with texts of the
target width only, nested ones and defaults included, an evaluation meets uniform values
only, so `~` and `+` always join.  And unless the filter that encodes bytes may be
applied, evaluating with everything converted to another width gives what the evaluation
gives, converted: the value, the scopes and every slot, with the same calls.
-/
theorem widths_are_kept {w : CharWidth} {allows : Filter → Prop} {l : Library} {e : Expr}
    {c : Context} (hl : l.Over (Value.uniform w) allows) (he : e.Over (Value.uniform w) allows)
    (hc : c.scopes.Over (Value.uniform w)) :
    (∀ v c₁, Evaluates ⟨w, l⟩ e c v c₁ →
      EvaluatesPassing (fun _ u => u.uniform w) ⟨w, l⟩ e c v c₁) ∧
    (∀ left right : Value, left.uniform w = true → right.uniform w = true →
      (left.concat w right).data = .text (.ofChars (left.shown ++ right.shown) w) ∧
      ∀ s t, left.data = .text s → right.data = .text t →
        BinaryOp.add.apply left right = .text (.ofChars (s.chars ++ t.chars) w)) ∧
    (¬ allows .urlEncode → ∀ w' depth,
      evalTo ⟨w', l.mapValues (Value.inWidth w')⟩ depth (e.mapValues (Value.inWidth w'))
        (c.inWidth w')
        = (evalTo ⟨w, l⟩ depth e c).map fun r => (r.1.inWidth w', r.2.inWidth w')) := by
  refine ⟨fun v c₁ h => evaluatesPassing_uniform hl he hc h, fun left right hleft hright => ?_,
    fun hurl w' depth => evalTo_converted hl he hc (fun f hf hf' => ?_) depth⟩
  · refine ⟨Value.data_concat_uniform hleft hright, fun s t hs ht => ?_⟩
    show left.data.add right.data = _
    rw [hs, ht]
    exact Payload.add_text ((Value.uniform_iff.mp hleft).text s hs)
      ((Value.uniform_iff.mp hright).text t ht)
  · rw [hf'] at hf
    exact absurd hf hurl

/-- What a call writes, with a text joined on and cut to three characters and the default ending. -/
def cutShort (called joined : Text) : Expr :=
  .filtered (.binary .concat (.call (.const (.of (.function 0))) ⟨[.const (.ofText called)], .nil⟩)
      (.const (.ofText joined)))
    [⟨.truncate, ⟨[.const (.ofInt 3), .const (.ofBool true)], .nil⟩⟩]

/-- A function that writes its argument twice. -/
def twice : Library := ⟨#[⟨"twice", .global, .emit [.required "x"] [.var "x", .var "x"]⟩]⟩

/-- Narrow texts written, joined and cut, and the same with wide ones. -/
theorem widths_are_kept_cutShort :
    ∃ v c₁, EvaluatesPassing (fun _ u => u.uniform .narrow) ⟨.narrow, twice⟩
        (cutShort (.narrow "abcd") (.narrow "efgh")) (.ofGlobals .nil) v c₁ ∧
      v.asText? = some (.narrow "abc...") ∧
      evalTo ⟨.wide, twice⟩ 6 (cutShort (.wide "abcd".toList) (.wide "efgh".toList))
        (.ofGlobals .nil)
        = some (v.inWidth .wide, c₁.inWidth .wide) := by
  have hplain : ∀ d : Payload Value, d.slot? = none →
      (Likeness.only (Value.uniform .narrow) (· ≠ .urlEncode)).value (.of d) (.of d) :=
    fun d h => ⟨rfl, Value.uniform_of (.of_slot? h)⟩
  have htext : ∀ s, (Likeness.only (Value.uniform .narrow) (· ≠ .urlEncode)).value
      (.ofText (.narrow s)) (.ofText (.narrow s)) :=
    fun s => ⟨rfl, Value.uniform_of (.of_text rfl)⟩
  have hlib : twice.Over (Value.uniform .narrow) (· ≠ .urlEncode) := by
    intro id
    refine rel_refl fun f hf => ?_
    obtain ⟨hid, rfl⟩ := Array.getElem?_eq_some_iff.mp hf
    obtain rfl : id = 0 := by simpa [twice] using hid
    exact ⟨rfl, rfl, .emit (.cons ⟨rfl, rfl, .none⟩ .nil)
      (.cons (.var "x") (.cons (.var "x") .nil))⟩
  have he : (cutShort (.narrow "abcd") (.narrow "efgh")).Over (Value.uniform .narrow)
      (· ≠ .urlEncode) := by
    refine .filtered
      (.binary .concat (.call (.const (hplain _ rfl)) ⟨?_, .nil⟩) (.const (htext _))) ?_
    · exact .cons (.const (htext _)) .nil
    · have hfilter : Filter.truncate ≠ .urlEncode := by decide
      refine .cons ⟨hfilter, ⟨?_, .nil⟩⟩ .nil
      exact .cons (.const (hplain _ rfl)) (.cons (.const (hplain _ rfl)) .nil)
  obtain ⟨hpassing, -, hconverted⟩ := widths_are_kept (c := .ofGlobals .nil) hlib he ⟨.nil, .nil⟩
  have hrun : (evalTo ⟨.narrow, twice⟩ 6 (cutShort (.narrow "abcd") (.narrow "efgh"))
      (.ofGlobals .nil)).map (·.1.asText?) = some (some (.narrow "abc...")) := by
    decide +kernel
  obtain ⟨⟨v, c₁⟩, hrun, hvalue⟩ := Option.map_eq_some_iff.mp hrun
  have hwide := hconverted (fun h => h rfl) .wide 6
  rw [hrun, Option.map_some] at hwide
  refine ⟨v, c₁, hpassing v c₁ ⟨6, hrun⟩, hvalue, ?_⟩
  have htwice : twice.mapValues (Value.inWidth .wide) = twice := by
    simp [Library.mapValues, twice, FunctionDef.mapValues, Behaviour.mapValues, Formal.mapValues,
      Formal.required, Expr.mapValues]
  have hcontext : (Context.ofGlobals .nil).inWidth .wide = .ofGlobals .nil := by
    simp [Context.inWidth, Context.ofGlobals, Scopes.mapValues, Dict.mapValues, Pool.empty]
  rw [htwice, hcontext] at hwide
  exact hwide

end TemplateExpr
