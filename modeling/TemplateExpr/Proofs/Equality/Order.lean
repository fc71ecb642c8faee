/-
The order of values.

Two texts are ordered by their code points, whatever their widths, and two whole numbers by
their values.  Equality looks at the same code points and the same values, so a tie in the
order is an equality, and the six comparison operators say of two such values what one order
says of them.  Without doubles no other two values have an order, and none of the four
operators that ask for one holds of them.

The order itself is `compare` on lists of characters and on integers, where being total
and transitive are facts of the library.  What is shown here is that each operator asks
that order, for operands of either kind and of mixed widths.
-/
import TemplateExpr.Proofs.Arithmetic.Whole
import TemplateExpr.Proofs.Equality.Content

namespace TemplateExpr

variable {a b c : Value} {s t : Text} {i j : Int64} {o : Ordering}

/-! ### What the operators say

Six operators compare, and each of them is defined on its own: two by equality, four by
the orders they accept.  These lemmas turn an answer of an operator into a statement
about equality or order, and the rest of the module never unfolds one.
-/

/-- A comparison holds of two values. -/
def BinaryOp.Holds (op : BinaryOp) (a b : Value) : Prop := op.apply a b = .bool true

/-- Whether an order is asked for and found to be one of the accepted ones. -/
theorem Value.ordered_eq_true_iff {accepted : List Ordering} :
    a.ordered b accepted = .bool true ↔ ∃ o ∈ accepted, a.order? b = some o := by
  unfold Value.ordered
  rcases a.order? b with _ | o
  · simp
  · simp

namespace BinaryOp

/-- Each comparison holds or is false. -/
theorem holds_or_apply_eq_false {op : BinaryOp} (hop : op ∈ [.lt, .eq, .gt, .le, .ge, .ne]) :
    op.Holds a b ∨ op.apply a b = .bool false := by
  have hbool : ∃ answer, op.apply a b = .bool answer := by
    simp only [List.mem_cons, List.not_mem_nil, or_false] at hop
    rcases hop with rfl | rfl | rfl | rfl | rfl | rfl
    all_goals exact ⟨_, rfl⟩
  obtain ⟨answer, hanswer⟩ := hbool
  cases answer with
  | true => exact .inl hanswer
  | false => exact .inr hanswer

theorem holds_eq_iff : eq.Holds a b ↔ a.equal b = true := by
  simp [Holds, apply]

theorem holds_ne_iff : ne.Holds a b ↔ a.equal b = false := by
  simp [Holds, apply]

theorem holds_lt_iff : lt.Holds a b ↔ a.order? b = some .lt := by
  simp [Holds, apply, Value.ordered_eq_true_iff]

theorem holds_gt_iff : gt.Holds a b ↔ a.order? b = some .gt := by
  simp [Holds, apply, Value.ordered_eq_true_iff]

theorem holds_le_iff : le.Holds a b ↔ a.order? b = some .lt ∨ a.order? b = some .eq := by
  simp [Holds, apply, Value.ordered_eq_true_iff]

theorem holds_ge_iff : ge.Holds a b ↔ a.order? b = some .gt ∨ a.order? b = some .eq := by
  simp [Holds, apply, Value.ordered_eq_true_iff]

end BinaryOp

/-! ### One order behind all comparisons

`Coherent` is what one expects of comparisons, of any two values: there is an order,
exactly one of less, equal and greater holds, and the other operators are what follows.
All of it comes from three facts about `compare`, so texts and numbers need no case
analysis of their own.
-/

/-- The operator that says of two values that they have a given order. -/
def BinaryOp.ofOrder : Ordering → BinaryOp
  | .lt => .lt
  | .eq => .eq
  | .gt => .gt

/-- Whatever is asked of two values, one order of them answers. -/
structure Value.Coherent (a b : Value) : Prop where
  /-- There is an order; the other way round it is reversed, and a tie is an equality. -/
  order : ∃ o, a.order? b = some o ∧ b.order? a = some o.swap ∧ (o = .eq ↔ a.equal b = true)
  decided : ∀ op ∈ [BinaryOp.lt, .eq, .gt, .le, .ge, .ne], op.Holds a b ∨ op.apply a b = .bool false
  one : ∃! op, op ∈ [BinaryOp.lt, .eq, .gt] ∧ op.Holds a b
  le_iff : BinaryOp.le.Holds a b ↔ BinaryOp.lt.Holds a b ∨ BinaryOp.eq.Holds a b
  ge_iff : BinaryOp.ge.Holds a b ↔ BinaryOp.gt.Holds a b ∨ BinaryOp.eq.Holds a b
  ne_iff : BinaryOp.ne.Holds a b ↔ ¬BinaryOp.eq.Holds a b

theorem Value.coherent_of_order (hab : a.order? b = some o) (hba : b.order? a = some o.swap)
    (htie : o = .eq ↔ a.equal b = true) : a.Coherent b := by
  have heq : BinaryOp.eq.Holds a b ↔ o = .eq := BinaryOp.holds_eq_iff.trans htie.symm
  have hlt : BinaryOp.lt.Holds a b ↔ o = .lt := by rw [BinaryOp.holds_lt_iff, hab, Option.some_inj]
  have hgt : BinaryOp.gt.Holds a b ↔ o = .gt := by rw [BinaryOp.holds_gt_iff, hab, Option.some_inj]
  have hone : ∀ op ∈ [BinaryOp.lt, .eq, .gt], op.Holds a b ↔ op = .ofOrder o := by
    simp only [List.forall_mem_cons, hlt, heq, hgt]
    cases o <;> simp [BinaryOp.ofOrder]
  refine ⟨⟨o, hab, hba, htie⟩, fun _ => BinaryOp.holds_or_apply_eq_false, ?_, ?_, ?_, ?_⟩
  · have hmem : .ofOrder o ∈ [BinaryOp.lt, .eq, .gt] := by cases o <;> simp [BinaryOp.ofOrder]
    exact ⟨.ofOrder o, ⟨hmem, (hone _ hmem).mpr rfl⟩, fun op hop => (hone op hop.1).mp hop.2⟩
  · rw [BinaryOp.holds_le_iff, hab, Option.some_inj, Option.some_inj, hlt, heq]
  · rw [BinaryOp.holds_ge_iff, hab, Option.some_inj, Option.some_inj, hgt, heq]
  · rw [BinaryOp.holds_ne_iff, BinaryOp.holds_eq_iff, Bool.not_eq_true]

/-- A value that comes before another one or is tied with it. -/
def Value.AtMost (a b : Value) : Prop := ∃ o, a.order? b = some o ∧ o.isLE = true

section

variable {κ : Type} [Ord κ] {x y z : κ}

/-- Where the order compares keys, and equal keys are those of equal values, all fits together. -/
theorem Value.coherent_of_compare [Std.OrientedOrd κ] [Std.LawfulEqOrd κ]
    (hab : a.order? b = some (compare x y)) (hba : b.order? a = some (compare y x))
    (hequal : a.equal b = true ↔ x = y) : a.Coherent b := by
  refine coherent_of_order hab ?_ (Std.compare_eq_iff_eq.trans hequal.symm)
  rw [hba, Std.OrientedOrd.eq_swap]

theorem Value.atMost_of_compare [Std.TransOrd κ] (hab : a.order? b = some (compare x y))
    (hbc : b.order? c = some (compare y z)) (hac : a.order? c = some (compare x z))
    (hfirst : a.AtMost b) (hsecond : b.AtMost c) : a.AtMost c := by
  obtain ⟨o, ho, hle⟩ := hfirst
  obtain ⟨o', ho', hle'⟩ := hsecond
  obtain rfl : compare x y = o := Option.some.inj (hab.symm.trans ho)
  obtain rfl : compare y z = o' := Option.some.inj (hbc.symm.trans ho')
  exact ⟨_, hac, Std.TransOrd.isLE_trans hle hle'⟩

end

/-! ### Texts -/

theorem Value.order?_texts (ha : a.data = .text s) (hb : b.data = .text t) :
    a.order? b = some (compare s.chars t.chars) := by
  unfold order?
  rw [ha, hb]

theorem Value.equal_texts (ha : a.data = .text s) (hb : b.data = .text t) :
    a.equal b = true ↔ s.chars = t.chars := by
  rw [equal_eq, ha, hb]
  exact beq_iff_eq

/-- Texts are compared at the first code point where they differ, and a prefix comes first. -/
theorem compare_chars_eq_lt_iff {cs ds : List Char} :
    compare cs ds = .lt ↔ List.Lex (fun c d => c.toNat < d.toNat) cs ds := by
  induction cs generalizing ds with
  | nil =>
      cases ds with
      | nil => simp
      | cons d ds => simp
  | cons c cs ih =>
      cases ds with
      | nil => simp
      | cons d ds =>
          rw [List.compare_cons_cons, Ordering.then_eq_lt, Std.compare_eq_iff_eq, ih]
          have hchar : compare c d = .lt ↔ c.toNat < d.toNat := compare_lt_iff_lt
          rw [hchar]
          constructor
          · rintro (hlt | ⟨rfl, hlex⟩)
            · exact .rel hlt
            · exact .cons hlex
          · intro h
            cases h with
            | rel hlt => exact .inl hlt
            | cons hlex => exact .inr ⟨rfl, hlex⟩

/-! ### Whole numbers -/

theorem Payload.whole?_ne_some_of_text {p : Payload Value} (hp : p = .text s) :
    p.whole? ≠ some i := by
  rw [hp]
  simp [whole?]

theorem Operands.order?_ints (i j : Int64) :
    (ints i j).order? = some (compare i.toInt j.toInt) := by
  unfold order?
  simp only [Int64.lt_iff_toInt_lt]
  rcases Int.lt_trichotomy i.toInt j.toInt with hlt | heq | hgt
  · rw [if_pos hlt, Int.compare_eq_lt.mpr hlt]
  · rw [if_neg (by omega), if_neg (by omega), Int.compare_eq_eq.mpr heq]
  · rw [if_neg (by omega), if_pos hgt, Int.compare_eq_gt.mpr hgt]

theorem Value.order?_wholes (ha : a.data.whole? = some i) (hb : b.data.whole? = some j) :
    a.order? b = some (compare i.toInt j.toInt) := by
  have hnumbers := congrArg (Option.bind · Operands.order?) (Payload.operands?_of_whole ha hb)
  rw [← Operands.order?_ints]
  unfold order?
  split
  · rename_i htext _
    exact absurd ha (Payload.whole?_ne_some_of_text htext)
  · exact hnumbers

theorem Payload.plain_of_whole {p : Payload Value} (hp : p.whole? = some i) : p.plain = true := by
  cases p <;> simp_all [whole?, plain]

theorem Payload.content_of_whole {p : Payload Value} (hp : p.whole? = some i) :
    p.content = .whole i := by
  cases p <;> simp_all [whole?, content, mapHeld, Content.ofPayload]

theorem Value.equal_wholes (ha : a.data.whole? = some i) (hb : b.data.whole? = some j) :
    a.equal b = true ↔ i.toInt = j.toInt := by
  rw [equal_eq, Payload.equal_iff_content_of_whole ha (Payload.plain_of_whole hb),
    Payload.content_of_whole ha, Payload.content_of_whole hb, Content.whole.injEq, Int64.toInt_inj]

/-! ### What has an order

Without doubles two values have an order exactly if they are two texts or two whole
numbers.  Everything else is refused in the same way, by all four operators at once.
-/

/-- Two values that are both texts or both whole numbers. -/
inductive Value.Comparable (a b : Value) : Prop
  | texts {s t : Text} (ha : a.data = .text s) (hb : b.data = .text t)
  | wholes {i j : Int64} (ha : a.data.whole? = some i) (hb : b.data.whole? = some j)

namespace Value.Comparable

theorem coherent (h : a.Comparable b) : a.Coherent b := by
  cases h with
  | texts ha hb =>
      exact coherent_of_compare (order?_texts ha hb) (order?_texts hb ha) (equal_texts ha hb)
  | wholes ha hb =>
      exact coherent_of_compare (order?_wholes ha hb) (order?_wholes hb ha) (equal_wholes ha hb)

theorem atMost_trans (hab : a.Comparable b) (hbc : b.Comparable c) (hfirst : a.AtMost b)
    (hsecond : b.AtMost c) : a.AtMost c := by
  cases hab with
  | texts ha hb =>
      cases hbc with
      | texts hb' hc =>
          obtain rfl := Payload.text.inj (hb.symm.trans hb')
          exact atMost_of_compare (order?_texts ha hb) (order?_texts hb hc) (order?_texts ha hc)
            hfirst hsecond
      | wholes hb' _ => exact absurd hb' (Payload.whole?_ne_some_of_text hb)
  | wholes ha hb =>
      cases hbc with
      | texts hb' _ => exact absurd hb (Payload.whole?_ne_some_of_text hb')
      | wholes hb' hc =>
          obtain rfl := Option.some.inj (hb.symm.trans hb')
          exact atMost_of_compare (order?_wholes ha hb) (order?_wholes hb hc) (order?_wholes ha hc)
            hfirst hsecond

end Value.Comparable

/-- Without doubles nothing else has an order. -/
theorem Value.order?_eq_none (ha : ∀ d, a.data ≠ .double d) (hb : ∀ d, b.data ≠ .double d)
    (h : ¬a.Comparable b) : a.order? b = none := by
  have hwhole : a.data.whole? = none ∨ b.data.whole? = none := by
    rcases hi : a.data.whole? with _ | i
    · exact .inl rfl
    · rcases hj : b.data.whole? with _ | j
      · exact .inr rfl
      · exact absurd (.wholes hi hj) h
  unfold order?
  split
  · rename_i htext htext'
    exact absurd (.texts htext htext') h
  · rw [Payload.operands?_eq_none ha hb hwhole]
    rfl

/-- No comparison holds of two values that have no order. -/
theorem BinaryOp.apply_of_order?_eq_none (h : a.order? b = none) :
    ∀ op ∈ [BinaryOp.lt, .gt, .le, .ge], op.apply a b = .bool false := by
  have hordered : ∀ accepted, a.ordered b accepted = .bool false := by
    intro accepted
    rw [Value.ordered, h]
    rfl
  simp [apply, hordered]

/-- Texts and whole numbers are each totally ordered, and all comparisons follow that order. -/
theorem order_is_total_and_coherent (a b c : Value) :
    (a.Comparable b → a.Coherent b) ∧
    (a.Comparable b → b.Comparable c → a.AtMost b → b.AtMost c → a.AtMost c) ∧
    (∀ s t, a.data = .text s → b.data = .text t →
      (a.order? b = some .lt ↔ List.Lex (fun c d => c.toNat < d.toNat) s.chars t.chars)) ∧
    (∀ i j, a.data.whole? = some i → b.data.whole? = some j →
      (a.order? b = some .lt ↔ i.toInt < j.toInt)) ∧
    (¬a.Comparable b → (∀ d, a.data ≠ .double d) → (∀ d, b.data ≠ .double d) →
      ∀ op ∈ [BinaryOp.lt, .gt, .le, .ge], op.apply a b = .bool false) := by
  refine ⟨Value.Comparable.coherent, Value.Comparable.atMost_trans, ?_, ?_, ?_⟩
  · intro s t ha hb
    rw [Value.order?_texts ha hb, Option.some_inj, compare_chars_eq_lt_iff]
  · intro i j ha hb
    rw [Value.order?_wholes ha hb, Option.some_inj, Int.compare_eq_lt]
  · intro hnot ha hb
    exact BinaryOp.apply_of_order?_eq_none (Value.order?_eq_none ha hb hnot)

/-- Texts of both widths, a boolean among integers, and a text beside a boolean. -/
theorem order_is_total_and_coherent_mixed :
    let ab : Value := .of (.text (.narrow "ab"))
    let b : Value := .of (.text (.wide ['b']))
    let ba : Value := .of (.text (.narrow "ba"))
    let yes : Value := .ofBool true
    let two : Value := .ofInt 2
    let three : Value := .ofInt 3
    ab.Comparable b ∧ b.Comparable ba ∧ ab.AtMost b ∧ b.AtMost ba ∧
      yes.Comparable two ∧ two.Comparable three ∧ yes.AtMost two ∧ two.AtMost three ∧
      ¬ab.Comparable yes ∧
      ab.Coherent b ∧ ab.AtMost ba ∧ List.Lex (fun c d => c.toNat < d.toNat) ['a', 'b'] ['b'] ∧
      yes.Coherent two ∧ yes.AtMost three ∧ yes.order? two = some .lt ∧
      ∀ op ∈ [BinaryOp.lt, .gt, .le, .ge], op.apply ab yes = .bool false := by
  intro ab b ba yes two three
  have hab : ab.Comparable b := .texts rfl rfl
  have hba : b.Comparable ba := .texts rfl rfl
  have habLe : ab.AtMost b := ⟨.lt, by decide, rfl⟩
  have hbaLe : b.AtMost ba := ⟨.lt, by decide, rfl⟩
  have htwo : yes.Comparable two := .wholes rfl rfl
  have hthree : two.Comparable three := .wholes rfl rfl
  have htwoLe : yes.AtMost two := ⟨.lt, by decide, rfl⟩
  have hthreeLe : two.AtMost three := ⟨.lt, by decide, rfl⟩
  have hnot : ¬ab.Comparable yes := by
    rintro (⟨-, hyes⟩ | ⟨hab, -⟩)
    · exact absurd hyes nofun
    · exact absurd hab nofun
  obtain ⟨hcoherent, htrans, hlex, -, -⟩ := order_is_total_and_coherent ab b ba
  obtain ⟨hcoherent', htrans', -, hless, -⟩ := order_is_total_and_coherent yes two three
  obtain ⟨-, -, -, -, hfalse⟩ := order_is_total_and_coherent ab yes yes
  exact ⟨hab, hba, habLe, hbaLe, htwo, hthree, htwoLe, hthreeLe, hnot,
    hcoherent hab, htrans hab hba habLe hbaLe, (hlex _ _ rfl rfl).mp (by decide),
    hcoherent' htwo, htrans' htwo hthree htwoLe hthreeLe, (hless _ _ rfl rfl).mpr (by decide),
    hfalse hnot nofun nofun⟩

end TemplateExpr
