/-
Powers of whole numbers.

A power is computed by repeated squaring, and given up at the first product that leaves the
words.  That is never too early: whatever is multiplied later is a power of a square, hence
at least one unless it is zero, so once a product is out of range the power is as well.  An
exponent of 32 bits therefore gives the exact power whenever it is a word.  A larger exponent
is not tried at all.  Then only the powers of -1, 0 and 1 are still words, and these are
the ones that are doubles without need.
-/
import Mathlib.Algebra.Order.Ring.Int
import Mathlib.Tactic.Linarith
import TemplateExpr.Proofs.Arithmetic.Whole

namespace TemplateExpr

namespace Integer

variable {n : Nat} {a b acc base : Int64}

/-! ### A product out of range stays out of range

Giving up is only right if the power could not have come back into the range.  A later
factor is the power of a square, so it is at least one or zero, and it is not zero
unless the product was.
-/

theorem ne_zero_of_not_fits {x : Int} (h : ¬Fits x) : x ≠ 0 := by
  rintro rfl
  exact h (by decide)

theorem not_fits_mul {x y : Int} (hx : ¬Fits x) (hy : 1 ≤ y) : ¬Fits (x * y) := by
  unfold Fits at *
  rcases Int.lt_or_le x 0 with hneg | hge
  · have hle : x * y ≤ x := by nlinarith
    omega
  · have hle : x ≤ x * y := by nlinarith
    omega

/-- A square out of range is beyond `2 ^ 63`, which is no square itself. -/
theorem not_fits_mul_square {x y : Int} (hx : x ≠ 0) (hy : ¬Fits (y * y)) :
    ¬Fits (x * (y * y)) := by
  have hnonneg : 0 ≤ y * y := mul_self_nonneg y
  have hbeyond : 2 ^ 63 < y * y := by
    unfold Fits at hy
    have hroot : 3037000500 ≤ y ∨ y ≤ -3037000500 := by
      by_contra hsmall
      have hsquare : 0 ≤ (3037000499 - y) * (3037000499 + y) := mul_nonneg (by omega) (by omega)
      have hle : y * y ≤ 3037000499 * 3037000499 := by linarith
      omega
    have hsquare : 3037000500 * 3037000500 ≤ y * y := by
      rcases hroot with hroot | hroot <;> nlinarith
    omega
  rcases Int.lt_or_gt_of_ne hx with hneg | hpos
  · have hle : x * (y * y) ≤ -(y * y) := by nlinarith
    unfold Fits
    omega
  · rw [Int.mul_comm]
    exact not_fits_mul hy (by omega)

theorem one_le_pow_square {y : Int} (hy : y ≠ 0) (k : Nat) : 1 ≤ (y * y) ^ k :=
  one_le_pow₀ (by have := mul_self_pos.mpr hy; omega)

theorem not_fits_mul_pow_square {x y : Int} {k : Nat} (hk : 0 < k) (hx : x ≠ 0)
    (hy : ¬Fits (y * y)) : ¬Fits (x * (y * y) ^ k) := by
  have hne : y ≠ 0 := left_ne_zero_of_mul (ne_zero_of_not_fits hy)
  obtain ⟨k, rfl⟩ := Nat.exists_eq_add_one.mpr hk
  rw [pow_succ', ← mul_assoc]
  exact not_fits_mul (not_fits_mul_square hx hy) (one_le_pow_square hne k)

/-! ### Repeated squaring

Two things may leave the words in one round, the accumulator and the square, and they
are tested in this order.  The invariant is that the two together still make the power,
`acc` times `base` to the exponent that is left.
-/

theorem ofInt?_bind {α : Type} (x : Int) (f : Int64 → Option α) :
    (ofInt? x).bind f = if Fits x then f (Int64.ofInt x) else none := by
  by_cases h : Fits x
  · rw [ofInt?_of_fits h, if_pos h, Option.bind_some]
  · rw [ofInt?_of_not_fits h, if_neg h, Option.bind_none]

/-- One round: the bit of the exponent goes into the accumulator, and the base is squared. -/
theorem powFrom_round (acc base : Int64) (hn : 2 ≤ n) :
    powFrom acc base n =
      (ofInt? (acc.toInt * base.toInt ^ (n % 2))).bind fun acc =>
        (ofInt? (base.toInt * base.toInt)).bind fun square => powFrom acc square (n / 2) := by
  rw [powFrom, if_neg (by omega), if_neg (by omega)]
  rcases Nat.mod_two_eq_zero_or_one n with hbit | hbit
  · rw [if_neg (by omega), hbit, pow_zero, mul_one, ofInt?_toInt]
    rfl
  · rw [if_pos hbit, hbit, pow_one]
    rfl

/-- A round only leaves the words by multiplying by the base. -/
theorem base_ne_zero_of_not_fits (h : ¬Fits (acc.toInt * base.toInt ^ (n % 2))) :
    base.toInt ≠ 0 := by
  rcases Nat.mod_two_eq_zero_or_one n with hbit | hbit
  · rw [hbit, pow_zero, mul_one] at h
    exact absurd (fits_toInt acc) h
  · rw [hbit, pow_one] at h
    exact right_ne_zero_of_mul (ne_zero_of_not_fits h)

/-- **Repeated squaring finds the power exactly if it is in range.** -/
theorem powFrom_eq (hacc : acc.toInt = 0 → base.toInt = 0) :
    powFrom acc base n = ofInt? (acc.toInt * base.toInt ^ n) := by
  -- along the halving of the exponent; a zero accumulator is met only below a zero base
  induction n using Nat.strongRecOn generalizing acc base with
  | ind n ih =>
      rcases Nat.lt_or_ge n 2 with hlt | hge
      · obtain rfl | rfl : n = 0 ∨ n = 1 := by omega
        · rw [powFrom, if_pos rfl, pow_zero, mul_one, ofInt?_toInt]
        · rw [powFrom, if_neg one_ne_zero, if_pos rfl, pow_one, mul?]
      have hhalf : 0 < n / 2 := by omega
      have hsplit : acc.toInt * base.toInt ^ n =
          acc.toInt * base.toInt ^ (n % 2) * (base.toInt * base.toInt) ^ (n / 2) := by
        conv_lhs => rw [← Nat.mod_add_div n 2, pow_add, pow_mul, sq]
        rw [mul_assoc]
      rw [powFrom_round acc base hge, ofInt?_bind, hsplit]
      by_cases hproduct : Fits (acc.toInt * base.toInt ^ (n % 2))
      · rw [if_pos hproduct, ofInt?_bind]
        have hzero : acc.toInt * base.toInt ^ (n % 2) = 0 → base.toInt = 0 := by
          intro h
          rcases mul_eq_zero.mp h with h | h
          · exact hacc h
          · exact eq_zero_of_pow_eq_zero h
        by_cases hsquare : Fits (base.toInt * base.toInt)
        · rw [if_pos hsquare, ih (n / 2) (by omega), toInt_ofInt_of_fits hproduct,
            toInt_ofInt_of_fits hsquare]
          rw [toInt_ofInt_of_fits hproduct, toInt_ofInt_of_fits hsquare]
          exact fun h => mul_eq_zero_of_left (hzero h) _
        · have hne : base.toInt ≠ 0 := left_ne_zero_of_mul (ne_zero_of_not_fits hsquare)
          rw [if_neg hsquare,
            ofInt?_of_not_fits (not_fits_mul_pow_square hhalf (mt hzero hne) hsquare)]
      · have hne := base_ne_zero_of_not_fits hproduct
        rw [if_neg hproduct, ofInt?_of_not_fits (not_fits_mul hproduct (one_le_pow_square hne _))]

theorem pow?_eq (a : Int64) (n : Nat) : pow? a n = ofInt? (a.toInt ^ n) := by
  have hone : (1 : Int64).toInt = 1 := rfl
  rw [pow?, powFrom_eq (fun h => absurd (hone.symm.trans h) one_ne_zero), hone, one_mul]

/-! ### Which powers are words

From an exponent of 64 on there is nothing between the two extremes: bases up to one in
size have powers of that size, and any other base is beyond the words.
-/

theorem fits_pow_of_small {x : Int} (hx : x.natAbs ≤ 1) (n : Nat) : Fits (x ^ n) := by
  have hpow : (x ^ n).natAbs ≤ 1 := by
    rw [Int.natAbs_pow]
    exact pow_le_one₀ (Nat.zero_le _) hx
  unfold Fits
  omega

theorem not_fits_pow_of_large {x : Int} (hx : 2 ≤ x.natAbs) (hn : 64 ≤ n) : ¬Fits (x ^ n) := by
  have hpow : 2 ^ 64 ≤ (x ^ n).natAbs := by
    rw [Int.natAbs_pow]
    calc 2 ^ 64 ≤ 2 ^ n := Nat.pow_le_pow_right (by decide) hn
      _ ≤ x.natAbs ^ n := Nat.pow_le_pow_left hx n
  unfold Fits
  omega

end Integer

/-! ### The operator -/

namespace Operands

variable {a b : Int64}

/-- The double that stands in where no integer is found. -/
def inexactPower (a b : Int64) : Payload Value := .double (a.toFloat.pow b.toFloat)

/-- With an exponent that is tried, the power is an integer exactly if it fits. -/
theorem pow_of_exponent (hb : 0 ≤ b.toInt) (hlt : b.toInt < 2 ^ 32) :
    (ints a b).pow =
      if Integer.Fits (a.toInt ^ b.toInt.toNat) then .int (Int64.ofInt (a.toInt ^ b.toInt.toNat))
      else inexactPower a b := by
  have hexponent : exponent? b = some b.toInt.toNat := if_pos ⟨hb, hlt⟩
  rw [pow, hexponent, Option.bind_some, Integer.pow?_eq]
  by_cases h : Integer.Fits (a.toInt ^ b.toInt.toNat)
  · rw [Integer.ofInt?_of_fits h, if_pos h]
  · rw [Integer.ofInt?_of_not_fits h, if_neg h]
    rfl

theorem pow_of_large_exponent (hb : 2 ^ 32 ≤ b.toInt) : (ints a b).pow = inexactPower a b := by
  have hexponent : exponent? b = none := if_neg fun h => Int.not_lt.mpr hb h.2
  rw [pow, hexponent, Option.bind_none]
  rfl

theorem pow_of_not_fits (hb : 0 ≤ b.toInt) (h : ¬Integer.Fits (a.toInt ^ b.toInt.toNat)) :
    (ints a b).pow = inexactPower a b := by
  rcases Int.lt_or_le b.toInt (2 ^ 32) with hlt | hge
  · rw [pow_of_exponent hb hlt, if_neg h]
  · exact pow_of_large_exponent hge

end Operands

/--
**When the powers of whole numbers stay integers.**  A power that is a word is the exact
integer, unless the base is -1, 0 or 1 and the exponent too large to be tried.  A power that
is no word is a double, and so is every power with an exponent of 33 bits or more.
-/
theorem powers_stay_whole_iff {u v : Value} {a b : Int64} (hu : u.data.whole? = some a)
    (hv : v.data.whole? = some b) (hb : 0 ≤ b.toInt) :
    let power := a.toInt ^ b.toInt.toNat
    ((Integer.Fits power → ∃ p : Int64, BinaryOp.pow.apply u v = .int p ∧ p.toInt = power) ↔
      ¬(2 ^ 32 ≤ b.toInt ∧ a.toInt.natAbs ≤ 1)) ∧
    (¬Integer.Fits power → BinaryOp.pow.apply u v = Operands.inexactPower a b) ∧
    (2 ^ 32 ≤ b.toInt → BinaryOp.pow.apply u v = Operands.inexactPower a b) := by
  intro power
  have hpow : BinaryOp.pow.apply u v = (Operands.ints a b).pow :=
    Payload.numeric_of_whole Operands.pow hu hv
  rw [hpow]
  refine ⟨?_, Operands.pow_of_not_fits hb, Operands.pow_of_large_exponent⟩
  constructor
  · intro hstays hmissed
    obtain ⟨p, hint, -⟩ := hstays (Integer.fits_pow_of_small hmissed.2 _)
    rw [Operands.pow_of_large_exponent hmissed.1] at hint
    exact absurd hint (by simp [Operands.inexactPower])
  · intro htried hfits
    have hlt : b.toInt < 2 ^ 32 := by
      by_contra hge
      refine Integer.not_fits_pow_of_large (n := b.toInt.toNat) ?_ ?_ hfits
      · omega
      · omega
    rw [Operands.pow_of_exponent hb hlt, if_pos hfits]
    exact ⟨_, rfl, Integer.toInt_ofInt_of_fits hfits⟩

/-- The smallest word is a power of minus two. -/
theorem powers_stay_whole_iff_smallest :
    (Value.ofInt (-2)).data.whole? = some (-2) ∧ (Value.ofInt 63).data.whole? = some 63 ∧
      0 ≤ (63 : Int64).toInt ∧ BinaryOp.pow.apply (.ofInt (-2)) (.ofInt 63) = .int .minValue := by
  have hu : (Value.ofInt (-2)).data.whole? = some (-2) := rfl
  have hv : (Value.ofInt 63).data.whole? = some 63 := rfl
  obtain ⟨hstays, -, -⟩ := powers_stay_whole_iff hu hv (by decide)
  obtain ⟨p, hint, hpower⟩ := hstays.mpr (by decide) (by decide)
  obtain rfl : p = .minValue := Int64.toInt_inj.mp (hpower.trans (by decide))
  exact ⟨hu, hv, by decide, hint⟩

/-- **One to a power of 33 bits is one, and the operator answers with a double.** -/
theorem power_of_one_is_a_double :
    (1 : Int64).toInt ^ (4294967296 : Int64).toInt.toNat = 1 ∧
      ∃ d, BinaryOp.pow.apply (.ofInt 1) (.ofInt 4294967296) = .double d :=
  ⟨one_pow _, _, rfl⟩

end TemplateExpr
