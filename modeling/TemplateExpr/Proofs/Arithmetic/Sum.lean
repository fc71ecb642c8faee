/-
Sums of values.

Whole numbers add up, texts of one width are joined, and so are lists, whatever holds their
elements.  These are the kinds of payloads that have sums: the sum of two of one kind is of
that kind again, and without doubles every other sum is empty.  An empty payload has no kind,
so once one grouping of three values meets a mixture the whole sum is empty, and so is that
of the other grouping.
-/
import TemplateExpr.Proofs.Arithmetic.Whole
import TemplateExpr.Proofs.Values.Recast
import TemplateExpr.Proofs.Widths.Uniform

namespace TemplateExpr

/-- The kinds of payloads that have sums. -/
inductive SumKind where
  | whole
  | text (w : CharWidth)
  | list
  deriving DecidableEq

namespace Payload

variable {p q r : Payload Value} {k : SumKind} {w : CharWidth}

/-- The kind of sums a payload can be part of. -/
def sumKind? : Payload Value → Option SumKind
  | .bool _ => some .whole
  | .int _ => some .whole
  | .text t => some (.text t.width)
  | .list _ => some .list
  | _ => none

theorem sumKind?_of_whole {i : Int64} (h : p.whole? = some i) : p.sumKind? = some .whole := by
  cases p with
  | bool b => rfl
  | int i => rfl
  | _ => simp [whole?] at h

theorem exists_whole (h : p.sumKind? = some .whole) : ∃ i, p.whole? = some i := by
  cases p with
  | bool b => exact ⟨_, rfl⟩
  | int i => exact ⟨_, rfl⟩
  | _ => simp [sumKind?] at h

theorem exists_text (h : p.sumKind? = some (.text w)) : ∃ t, p = .text t ∧ t.width = w := by
  cases p with
  | text t => exact ⟨t, rfl, by simpa [sumKind?] using h⟩
  | _ => simp [sumKind?] at h

theorem exists_list (h : p.sumKind? = some .list) : ∃ l, p = .list l := by
  cases p with
  | list l => exact ⟨l, rfl⟩
  | _ => simp [sumKind?] at h

theorem ne_double_of_sumKind? (h : p.sumKind? = some k) (d : Float) : p ≠ .double d := by
  rintro rfl
  exact absurd h (by simp [sumKind?])

/-! ### Sums of one kind

Each kind has a sum of its own: words add with wrapping, texts of one width and lists
are put one behind the other.  All three are associative, and the kind of a sum is that
of its parts.
-/

/-- The sum of two payloads of one kind is of that kind. -/
theorem sumKind?_add (hp : p.sumKind? = some k) (hq : q.sumKind? = some k) :
    (p.add q).sumKind? = some k := by
  cases k with
  | whole =>
      obtain ⟨i, hi⟩ := exists_whole hp
      obtain ⟨j, hj⟩ := exists_whole hq
      rw [add_of_whole hi hj]
      rfl
  | text w =>
      obtain ⟨s, rfl, hs⟩ := exists_text hp
      obtain ⟨t, rfl, ht⟩ := exists_text hq
      rw [add_text hs ht]
      exact congrArg (some ∘ SumKind.text) (Text.width_ofChars _ w)
  | list =>
      obtain ⟨l, rfl⟩ := exists_list hp
      obtain ⟨m, rfl⟩ := exists_list hq
      rfl

theorem add_assoc_of_sumKind? (hp : p.sumKind? = some k) (hq : q.sumKind? = some k)
    (hr : r.sumKind? = some k) : (p.add q).add r = p.add (q.add r) := by
  cases k with
  | whole =>
      obtain ⟨i, hi⟩ := exists_whole hp
      obtain ⟨j, hj⟩ := exists_whole hq
      obtain ⟨l, hl⟩ := exists_whole hr
      rw [add_of_whole hi hj, add_of_whole hj hl, add_of_whole rfl hl, add_of_whole hi rfl,
        Int64.add_assoc]
  | text w =>
      obtain ⟨s, rfl, hs⟩ := exists_text hp
      obtain ⟨t, rfl, ht⟩ := exists_text hq
      obtain ⟨u, rfl, hu⟩ := exists_text hr
      rw [add_text hs ht, add_text ht hu, add_text (Text.width_ofChars _ w) hu,
        add_text hs (Text.width_ofChars _ w), Text.chars_ofChars, Text.chars_ofChars,
        List.append_assoc]
  | list =>
      obtain ⟨l, rfl⟩ := exists_list hp
      obtain ⟨m, rfl⟩ := exists_list hq
      obtain ⟨n, rfl⟩ := exists_list hr
      exact congrArg (list ∘ ListSource.owned) (List.append_assoc l.items m.items n.items)

/-! ### Mixtures

One value without a kind, or two of different kinds, make a sum empty, and an empty sum
has no kind either.  So both groupings are empty as soon as the three values are not of
one kind, whichever pair is to blame.
-/

/-- Without doubles, a sum of two payloads that are not of one kind is empty. -/
theorem add_eq_empty (hp : ∀ d, p ≠ .double d) (hq : ∀ d, q ≠ .double d)
    (hmixed : ∀ k, p.sumKind? = some k → q.sumKind? ≠ some k) : p.add q = .empty := by
  by_cases hnumber : p.whole? = none ∨ q.whole? = none
  · have hnumeric := numeric_eq_empty Operands.add hp hq hnumber
    cases p with
    | text s =>
        cases q with
        | text t =>
            have hwidth : s.width ≠ t.width := fun h => hmixed _ rfl (by rw [h]; rfl)
            unfold add
            dsimp only
            rw [Text.append_of_ne hwidth]
        | _ => exact hnumeric
    | list l =>
        cases q with
        | list m => exact absurd rfl (hmixed _ rfl)
        | _ => exact hnumeric
    | _ => exact hnumeric
  · obtain ⟨i, hi⟩ : ∃ i, p.whole? = some i :=
      Option.ne_none_iff_exists'.mp fun h => hnumber (.inl h)
    obtain ⟨j, hj⟩ : ∃ j, q.whole? = some j :=
      Option.ne_none_iff_exists'.mp fun h => hnumber (.inr h)
    exact absurd (sumKind?_of_whole hj) (hmixed _ (sumKind?_of_whole hi))

/-- Without doubles, a sum has a kind exactly if both its parts have it. -/
theorem sumKind?_add_eq_some_iff (hp : ∀ d, p ≠ .double d) (hq : ∀ d, q ≠ .double d) :
    (p.add q).sumKind? = some k ↔ p.sumKind? = some k ∧ q.sumKind? = some k := by
  refine ⟨fun h => ?_, fun h => sumKind?_add h.1 h.2⟩
  by_cases hkind : ∃ k', p.sumKind? = some k' ∧ q.sumKind? = some k'
  · obtain ⟨k', hp', hq'⟩ := hkind
    rw [sumKind?_add hp' hq'] at h
    exact h ▸ ⟨hp', hq'⟩
  · rw [add_eq_empty hp hq fun k' hp' hq' => hkind ⟨k', hp', hq'⟩] at h
    exact absurd h (by simp [sumKind?])

theorem add_eq_empty_iff (hp : ∀ d, p ≠ .double d) (hq : ∀ d, q ≠ .double d) :
    p.add q = .empty ↔ ¬∃ k, p.sumKind? = some k ∧ q.sumKind? = some k := by
  constructor
  · rintro hempty ⟨k, hkind⟩
    rw [← sumKind?_add_eq_some_iff hp hq, hempty] at hkind
    exact absurd hkind (by simp [sumKind?])
  · intro hmixed
    exact add_eq_empty hp hq fun k hp' hq' => hmixed ⟨k, hp', hq'⟩

theorem add_ne_double (hp : ∀ d, p ≠ .double d) (hq : ∀ d, q ≠ .double d) (d : Float) :
    p.add q ≠ .double d := by
  by_cases hkind : ∃ k, p.sumKind? = some k ∧ q.sumKind? = some k
  · obtain ⟨k, hp', hq'⟩ := hkind
    exact ne_double_of_sumKind? (sumKind?_add hp' hq') d
  · rw [(add_eq_empty_iff hp hq).mpr hkind]
    nofun

/-- Three payloads have a sum exactly if they are of one kind, whatever the grouping. -/
theorem add_add_eq_empty_iff (hp : ∀ d, p ≠ .double d) (hq : ∀ d, q ≠ .double d)
    (hr : ∀ d, r ≠ .double d) :
    ((p.add q).add r = .empty ↔
      ¬∃ k, p.sumKind? = some k ∧ q.sumKind? = some k ∧ r.sumKind? = some k) ∧
    (p.add (q.add r) = .empty ↔
      ¬∃ k, p.sumKind? = some k ∧ q.sumKind? = some k ∧ r.sumKind? = some k) := by
  rw [add_eq_empty_iff (add_ne_double hp hq) hr, add_eq_empty_iff hp (add_ne_double hq hr)]
  simp only [sumKind?_add_eq_some_iff hp hq, sumKind?_add_eq_some_iff hq hr, and_assoc, and_self]

end Payload

/--
**Adding is associative without doubles.**  Both groupings of three values have the same
payload, which is empty exactly if the values are not of one kind: whole numbers, texts of
one width or lists.
-/
theorem sum_is_associative {a b c : Value} (ha : ∀ d, a.data ≠ .double d)
    (hb : ∀ d, b.data ≠ .double d) (hc : ∀ d, c.data ≠ .double d) :
    let left := BinaryOp.add.apply (.of (BinaryOp.add.apply a b)) c
    let right := BinaryOp.add.apply a (.of (BinaryOp.add.apply b c))
    left = right ∧
      (left = .empty ↔
        ¬∃ k, a.data.sumKind? = some k ∧ b.data.sumKind? = some k ∧ c.data.sumKind? = some k) := by
  intro left right
  obtain ⟨hleft, hright⟩ := Payload.add_add_eq_empty_iff ha hb hc
  refine ⟨?_, hleft⟩
  by_cases hkind : ∃ k, a.data.sumKind? = some k ∧ b.data.sumKind? = some k ∧
    c.data.sumKind? = some k
  · obtain ⟨k, hka, hkb, hkc⟩ := hkind
    exact Payload.add_assoc_of_sumKind? hka hkb hkc
  · exact (hleft.mpr hkind).trans (hright.mpr hkind).symm

/-- A host list with a hole, a progression and a list that holds its elements. -/
theorem sum_is_associative_lists :
    let a : Value := .of (.list (.sparse [none, some (.ofBool true)]))
    let b : Value := .of (.list (.progression 2 0 1))
    let c : Value := .of (.list (.owned [.empty]))
    (∀ d, a.data ≠ .double d) ∧ (∀ d, b.data ≠ .double d) ∧ (∀ d, c.data ≠ .double d) ∧
      BinaryOp.add.apply (.of (BinaryOp.add.apply a b)) c =
        .list (.owned [.ofBool true, .ofInt 0, .ofInt 1, .empty]) ∧
      BinaryOp.add.apply a (.of (BinaryOp.add.apply b c)) =
        .list (.owned [.ofBool true, .ofInt 0, .ofInt 1, .empty]) := by
  intro a b c
  have ha : ∀ d, a.data ≠ .double d := nofun
  have hb : ∀ d, b.data ≠ .double d := nofun
  have hc : ∀ d, c.data ≠ .double d := nofun
  have hleft : BinaryOp.add.apply (.of (BinaryOp.add.apply a b)) c =
      .list (.owned [.ofBool true, .ofInt 0, .ofInt 1, .empty]) := rfl
  obtain ⟨hassoc, -⟩ := sum_is_associative ha hb hc
  exact ⟨ha, hb, hc, hleft, hassoc.symm.trans hleft⟩

end TemplateExpr
