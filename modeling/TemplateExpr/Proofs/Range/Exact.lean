/-
Ranges are exact.

A range counts its elements with exact integers and holds the count to a word, but reads
them in wrapping arithmetic.  Neither shows.  The difference of two words divided by a
third is at most a word in size, so the count is never cut; and as long as a position is
below the count, the steps up to it stay on the near side of the stop, so the element
there lies between the start and the stop and its wrapping arithmetic has not wrapped.
-/
import TemplateExpr.Eval.Call

namespace TemplateExpr

/-! ### Steps toward the stop

The count is a quotient cut toward zero, and every step it counts must lie strictly
before the stop.  Upward and downward are mirror images, and each is one inequality.
-/

/-- Fewer steps upward than the quotient counts do not reach the distance. -/
private theorem mul_lt_of_lt_tdiv {d s : Int} (hs : 0 < s) {i : Nat} (hi : (i : Int) < d.tdiv s) :
    s * i < d := by
  have hd : 0 ≤ d := by
    rcases Int.lt_or_le d 0 with hneg | hd
    · have hquot : 0 ≤ (-d).tdiv s := Int.tdiv_nonneg (by omega) (by omega)
      rw [Int.neg_tdiv] at hquot
      omega
    · exact hd
  rw [Int.tdiv_eq_ediv_of_nonneg hd] at hi
  have hmul : ((i : Int) + 1) * s ≤ d := (Int.le_ediv_iff_mul_le hs).mp hi
  calc s * i < (i + 1) * s := by rw [Int.mul_comm, Int.add_mul]; omega
    _ ≤ d := hmul

/-- Fewer steps downward than the quotient counts do not reach the distance either. -/
private theorem lt_mul_of_lt_tdiv {d s : Int} (hs : s < 0) {i : Nat} (hi : (i : Int) < d.tdiv s) :
    d < s * i := by
  rw [← Int.neg_tdiv_neg] at hi
  have hmul := mul_lt_of_lt_tdiv (Int.neg_pos_of_neg hs) hi
  rw [Int.neg_mul] at hmul
  omega

/-! ### The count -/

variable {start stop step : Int64}

/-- **The count of a range is never cut.** -/
theorem rangeCount_eq (start stop step : Int64) :
    rangeCount start stop step = ((stop.toInt - start.toInt).tdiv step.toInt).toNat := by
  have hword : Nat.pow 2 64 = 18446744073709551616 := rfl
  have hquot := Int.natAbs_tdiv_le_natAbs (stop.toInt - start.toInt) step.toInt
  have hstart := And.intro start.le_toInt start.toInt_lt
  have hstop := And.intro stop.le_toInt stop.toInt_lt
  unfold rangeCount
  rw [hword]
  omega

/-- A part of a step that would lead past the stop is not counted. -/
example : rangeCount 10 0 (-3) = 3 := by decide

theorem lt_rangeCount_iff {i : Nat} :
    i < rangeCount start stop step ↔ (i : Int) < (stop.toInt - start.toInt).tdiv step.toInt := by
  rw [rangeCount_eq]
  omega

/-! ### The elements

An element is computed with words that wrap.  The exact sum lies between the start and
the stop, which are words, so it is a word itself and wrapping changes nothing.
-/

theorem term_eq_ofInt (start step : Int64) (i : Nat) :
    ListSource.term start step i = Int64.ofInt (start.toInt + step.toInt * i) := by
  rw [Int64.ofInt_add, Int64.ofInt_mul, Int64.ofInt_toInt, Int64.ofInt_toInt, Int64.ofInt_eq_ofNat]
  rfl

/-- Rising, the steps of a range stay at or above its start and below its stop. -/
theorem steps_rising (hstep : 0 < step.toInt) {i : Nat} (hi : i < rangeCount start stop step) :
    start.toInt ≤ start.toInt + step.toInt * i ∧ start.toInt + step.toInt * i < stop.toInt := by
  have hmul := mul_lt_of_lt_tdiv hstep (lt_rangeCount_iff.mp hi)
  have hnonneg : 0 ≤ step.toInt * i := Int.mul_nonneg (by omega) (by omega)
  omega

/-- Falling, they stay at or below its start and above its stop. -/
theorem steps_falling (hstep : step.toInt < 0) {i : Nat} (hi : i < rangeCount start stop step) :
    stop.toInt < start.toInt + step.toInt * i ∧ start.toInt + step.toInt * i ≤ start.toInt := by
  have hmul := lt_mul_of_lt_tdiv hstep (lt_rangeCount_iff.mp hi)
  have hnonpos : step.toInt * i ≤ 0 := Int.mul_nonpos_of_nonpos_of_nonneg (by omega) (by omega)
  omega

/-- **The elements of a range do not wrap.** -/
theorem toInt_term (hstep : step ≠ 0) {i : Nat} (hi : i < rangeCount start stop step) :
    (ListSource.term start step i).toInt = start.toInt + step.toInt * i := by
  have hstart := And.intro start.le_toInt start.toInt_lt
  have hstop := And.intro stop.le_toInt stop.toInt_lt
  have hne : step.toInt ≠ 0 := by
    intro h
    exact hstep (Int64.toInt_inj.mp h)
  have hbounds :
      -2 ^ 63 ≤ start.toInt + step.toInt * i ∧ start.toInt + step.toInt * i < 2 ^ 63 := by
    rcases Int.lt_or_gt_of_ne hne with hneg | hpos
    · have hsteps := steps_falling hneg hi
      omega
    · have hsteps := steps_rising hpos hi
      omega
  rw [term_eq_ofInt, Int64.toInt_ofInt_of_le hbounds.1 hbounds.2]

/-! ### The list of a range -/

/-- A list holds the integers from `start` toward `stop`, `step` apart, and nothing else. -/
structure ExactRange (start stop step : Int64) (l : ListSource Value) : Prop where
  /-- There are as many elements as whole steps lead toward the stop. -/
  length : (l.length : Int) = max 0 ((stop.toInt - start.toInt).tdiv step.toInt)
  /-- The element at a position is the exact sum. -/
  element : ∀ i < l.length,
    ∃ x : Int64, l.get? i = some (.ofInt x) ∧ x.toInt = start.toInt + step.toInt * i
  beyond : ∀ i, l.length ≤ i → l.get? i = none
  first : 0 < l.length → l.get? 0 = some (.ofInt start)
  /-- Rising, the elements lie before the stop and each one below the later ones. -/
  rising : 0 < step → ∀ i x, l.get? i = some (.ofInt x) →
    x < stop ∧ ∀ j y, i < j → l.get? j = some (.ofInt y) → x < y
  /-- Falling, the elements lie before the stop and each one above the later ones. -/
  falling : step < 0 → ∀ i x, l.get? i = some (.ofInt x) →
    stop < x ∧ ∀ j y, i < j → l.get? j = some (.ofInt y) → y < x

/-- An element of a progression stands below its count. -/
theorem get?_progression {count i : Nat} {x : Int64}
    (h : (ListSource.progression count start step).get? i = some (.ofInt x)) :
    i < count ∧ x = ListSource.term start step i := by
  change (if i < count then some (Value.ofInt (ListSource.term start step i)) else none) = _ at h
  by_cases hi : i < count
  · rw [if_pos hi] at h
    refine ⟨hi, ?_⟩
    simpa [Value.ofInt, Value.of] using h.symm
  · rw [if_neg hi] at h
    exact absurd h (by simp)

theorem exactRange_progression (start stop : Int64) {step : Int64} (hstep : step ≠ 0) :
    ExactRange start stop step (.progression (rangeCount start stop step) start step) where
  length := by
    show (rangeCount start stop step : Int) = _
    rw [rangeCount_eq]
    omega
  element := by
    intro i hi
    have hi' : i < rangeCount start stop step := hi
    exact ⟨_, if_pos hi', toInt_term hstep hi'⟩
  beyond := by
    intro i hi
    exact if_neg (Nat.not_lt.mpr hi)
  first := by
    intro h
    have h' : 0 < rangeCount start stop step := h
    have hterm : ListSource.term start step 0 = start := by
      rw [← Int64.toInt_inj, toInt_term hstep h']
      simp
    show (if 0 < rangeCount start stop step then _ else _) = _
    rw [if_pos h', hterm]
  rising := by
    intro hpos i x hx
    obtain ⟨hi, rfl⟩ := get?_progression hx
    have hpos' : 0 < step.toInt := Int64.lt_iff_toInt_lt.mp hpos
    refine ⟨?_, ?_⟩
    · rw [Int64.lt_iff_toInt_lt, toInt_term hstep hi]
      exact (steps_rising hpos' hi).2
    · intro j y hij hy
      obtain ⟨hj, rfl⟩ := get?_progression hy
      rw [Int64.lt_iff_toInt_lt, toInt_term hstep hi, toInt_term hstep hj]
      have hmul : step.toInt * i < step.toInt * j := Int.mul_lt_mul_of_pos_left (by omega) hpos'
      omega
  falling := by
    intro hneg i x hx
    obtain ⟨hi, rfl⟩ := get?_progression hx
    have hneg' : step.toInt < 0 := Int64.lt_iff_toInt_lt.mp hneg
    refine ⟨?_, ?_⟩
    · rw [Int64.lt_iff_toInt_lt, toInt_term hstep hi]
      exact (steps_falling hneg' hi).1
    · intro j y hij hy
      obtain ⟨hj, rfl⟩ := get?_progression hy
      rw [Int64.lt_iff_toInt_lt, toInt_term hstep hi, toInt_term hstep hj]
      have hmul : step.toInt * j < step.toInt * i := Int.mul_lt_mul_of_neg_left (by omega) hneg'
      omega

end TemplateExpr
