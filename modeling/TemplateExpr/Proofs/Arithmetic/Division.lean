/-
Floor division of whole numbers.

The words divide with a quotient cut toward zero.  Where a remainder is left and the
operands differ in sign, the quotient is one too large and the remainder falls on the wrong
side of zero; each is then corrected on its own, by a test of its own.  The two tests agree,
and since a quotient and a remainder with the sign and the size of the remainder of floor
division can only be those of floor division, both corrections are right at once.  They never
leave the words.  The one quotient that does is that of the smallest word by -1, and it
wraps.
-/
import TemplateExpr.Proofs.Arithmetic.Whole

namespace TemplateExpr

namespace Integer

variable {a b : Int64}

/-! ### The two tests

The quotient is corrected by a test of the operands and the remainder by one of its own
sign.  They come to the same condition, `Uneven`, because a remainder cut toward zero
has the sign of the dividend.
-/

/-- A remainder is left and the operands differ in sign. -/
def Uneven (a b : Int64) : Prop := a % b ≠ 0 ∧ ¬(a < 0 ↔ b < 0)

instance : Decidable (Uneven a b) := inferInstanceAs (Decidable (_ ∧ _))

/-- The remainder cut toward zero is on the side of the dividend. -/
theorem mod_neg_iff (h : a % b ≠ 0) : a % b < 0 ↔ a < 0 := by
  have hne : a.toInt.tmod b.toInt ≠ 0 := by
    rw [← Int64.toInt_mod]
    exact fun hzero => h (Int64.toInt_inj.mp hzero)
  rw [Int64.lt_iff_toInt_lt, Int64.lt_iff_toInt_lt, Int64.toInt_mod]
  show a.toInt.tmod b.toInt < 0 ↔ a.toInt < 0
  rcases Int.lt_or_le a.toInt 0 with hneg | hge
  · have hopposite := Int.tmod_nonneg b.toInt (show 0 ≤ -a.toInt by omega)
    rw [Int.neg_tmod] at hopposite
    omega
  · have hnonneg := Int.tmod_nonneg b.toInt hge
    omega

theorem quotient_test :
    (a % b != 0 && (decide (a < 0) != decide (b < 0))) = true ↔ Uneven a b := by
  simp [Uneven]

theorem remainder_test :
    (a % b != 0 && (decide (a % b < 0) != decide (b < 0))) = true ↔ Uneven a b := by
  simp only [Bool.and_eq_true, bne_iff_ne, ne_eq, decide_eq_decide, Uneven]
  exact and_congr_right fun h => by rw [mod_neg_iff h]

theorem floorDiv_eq (a b : Int64) : floorDiv a b = if Uneven a b then a / b - 1 else a / b := by
  simp only [floorDiv, quotient_test]

theorem floorMod_eq (a b : Int64) : floorMod a b = if Uneven a b then a % b + b else a % b := by
  simp only [floorMod, remainder_test]

/-! ### The corrections are those of floor division -/

/-- A remainder with the sign of the divisor, smaller than it, is that of floor division. -/
theorem fdiv_fmod_eq {x y q r : Int} (hsum : r + y * q = x)
    (hsign : 0 ≤ r ∧ r < y ∨ y < r ∧ r ≤ 0) : x.fdiv y = q ∧ x.fmod y = r := by
  rcases hsign with ⟨hge, hlt⟩ | ⟨hlt, hle⟩
  · exact (Int.fdiv_fmod_unique (by omega)).mpr ⟨hsum, hge, hlt⟩
  · exact (Int.fdiv_fmod_unique' (by omega)).mpr ⟨hsum, hlt, hle⟩

theorem uneven_iff : Uneven a b ↔ a.toInt.tmod b.toInt ≠ 0 ∧ ¬(a.toInt < 0 ↔ b.toInt < 0) := by
  rw [Uneven, Int64.lt_iff_toInt_lt, Int64.lt_iff_toInt_lt, ← Int64.toInt_mod, ne_eq, ne_eq,
    ← Int64.toInt_inj]
  rfl

/-- The truncated remainder is smaller than the divisor, on the side of the dividend. -/
theorem tmod_bounds {x y : Int} (hy : y ≠ 0) :
    (x.tmod y).natAbs < y.natAbs ∧ (0 ≤ x → 0 ≤ x.tmod y) ∧ (x < 0 → x.tmod y ≤ 0) := by
  refine ⟨?_, fun hx => Int.tmod_nonneg y hx, fun hx => ?_⟩
  · rw [Int.natAbs_tmod]
    exact Nat.mod_lt _ (by omega)
  · have hopposite := Int.tmod_nonneg y (show 0 ≤ -x by omega)
    rw [Int.neg_tmod] at hopposite
    omega

theorem fdiv_fmod_of_uneven (hb : b.toInt ≠ 0) (h : Uneven a b) :
    a.toInt.fdiv b.toInt = a.toInt.tdiv b.toInt - 1 ∧
      a.toInt.fmod b.toInt = a.toInt.tmod b.toInt + b.toInt := by
  obtain ⟨hleft, hside⟩ := uneven_iff.mp h
  obtain ⟨hsmall, hpos, hneg⟩ := tmod_bounds (x := a.toInt) hb
  have hsum := Int.tmod_add_mul_tdiv a.toInt b.toInt
  refine fdiv_fmod_eq ?_ (by omega)
  rw [Int.mul_sub]
  omega

theorem fdiv_fmod_of_even (hb : b.toInt ≠ 0) (h : ¬Uneven a b) :
    a.toInt.fdiv b.toInt = a.toInt.tdiv b.toInt ∧ a.toInt.fmod b.toInt = a.toInt.tmod b.toInt := by
  rw [uneven_iff] at h
  obtain ⟨hsmall, hpos, hneg⟩ := tmod_bounds (x := a.toInt) hb
  exact fdiv_fmod_eq (Int.tmod_add_mul_tdiv a.toInt b.toInt) (by omega)

/-! ### Quotient and remainder as words

Being smaller than the divisor keeps the remainder among the words.  The quotient is no
larger than the dividend, which leaves one case out: `2 ^ 63` is no word, and only the
smallest word divided by -1 comes to it.
-/

theorem toInt_ne_zero (hb : b ≠ 0) : b.toInt ≠ 0 := fun h => hb (Int64.toInt_inj.mp h)

/-- The remainder of floor division is smaller than the divisor, on the side of the divisor. -/
theorem fmod_bounds {y : Int} (x : Int) (hy : y ≠ 0) :
    (x.fmod y).natAbs < y.natAbs ∧ (0 < y → 0 ≤ x.fmod y) ∧ (y < 0 → x.fmod y ≤ 0) := by
  rcases Int.lt_or_gt_of_ne hy with hneg | hpos
  · obtain ⟨-, hlt, hle⟩ := (Int.fdiv_fmod_unique' hneg).mp ⟨Eq.refl (x.fdiv y), rfl⟩
    omega
  · obtain ⟨-, hge, hlt⟩ := (Int.fdiv_fmod_unique hpos).mp ⟨Eq.refl (x.fdiv y), rfl⟩
    omega

theorem sign_fmod {y : Int} (x : Int) (hy : y ≠ 0) : x.fmod y = 0 ∨ (x.fmod y).sign = y.sign := by
  obtain ⟨-, hpos, hneg⟩ := fmod_bounds x hy
  by_cases hzero : x.fmod y = 0
  · exact .inl hzero
  · rcases Int.lt_or_gt_of_ne hy with hlt | hgt
    · rw [Int.sign_eq_neg_one_of_neg hlt, Int.sign_eq_neg_one_of_neg (by omega)]
      exact .inr rfl
    · rw [Int.sign_eq_one_of_pos hgt, Int.sign_eq_one_of_pos (by omega)]
      exact .inr rfl

theorem fits_fmod (a : Int64) (hb : b ≠ 0) : Fits (a.toInt.fmod b.toInt) := by
  have hbounds := fmod_bounds a.toInt (toInt_ne_zero hb)
  have hfits := fits_toInt b
  unfold Fits at *
  omega

/-- Only the smallest word by `-1` has a quotient that is no word. -/
theorem fits_fdiv (hb : b ≠ 0) (h : ¬(a = .minValue ∧ b = -1)) : Fits (a.toInt.fdiv b.toInt) := by
  have hne := toInt_ne_zero hb
  obtain ⟨hsmall, hpos, hneg⟩ := fmod_bounds a.toInt hne
  have hsize := Int.natAbs_fdiv_le_natAbs a.toInt b.toInt
  have hsum := Int.fmod_add_mul_fdiv a.toInt b.toInt
  have hfits := fits_toInt a
  have hcorner : ¬(a.toInt = -2 ^ 63 ∧ b.toInt = -1) :=
    fun hc => h ⟨Int64.toInt_inj.mp hc.1, Int64.toInt_inj.mp hc.2⟩
  have hover : a.toInt.fdiv b.toInt ≠ 2 ^ 63 := by
    intro hquot
    rw [hquot] at hsum
    unfold Fits at hfits
    omega
  unfold Fits at *
  omega

theorem div_eq_ofInt (a b : Int64) : a / b = Int64.ofInt (a.toInt.tdiv b.toInt) := by
  rw [← Int64.toInt_inj, Int64.toInt_div, Int64.toInt_ofInt]

/-- The quotient is that of floor division, wrapped to a word. -/
theorem floorDiv_eq_ofInt (a : Int64) (hb : b ≠ 0) :
    floorDiv a b = Int64.ofInt (a.toInt.fdiv b.toInt) := by
  rw [floorDiv_eq, div_eq_ofInt]
  by_cases h : Uneven a b
  · rw [if_pos h, (fdiv_fmod_of_uneven (toInt_ne_zero hb) h).1, Int64.ofInt_sub]
    rfl
  · rw [if_neg h, (fdiv_fmod_of_even (toInt_ne_zero hb) h).1]

theorem floorMod_eq_ofInt (a : Int64) (hb : b ≠ 0) :
    floorMod a b = Int64.ofInt (a.toInt.fmod b.toInt) := by
  rw [floorMod_eq, ← Int64.ofInt_toInt (a % b), Int64.toInt_mod]
  by_cases h : Uneven a b
  · rw [if_pos h, (fdiv_fmod_of_uneven (toInt_ne_zero hb) h).2, Int64.ofInt_add, Int64.ofInt_toInt]
  · rw [if_neg h, (fdiv_fmod_of_even (toInt_ne_zero hb) h).2]

/-! ### The corrections do not wrap

The corrections are made in wrapping arithmetic, where a wrong one would not be noticed.
The checked versions have no answer where a correction leaves the words, and they always
have one.
-/

/-- The quotient, given up where its correction leaves the words. -/
def floorDiv? (a b : Int64) : Option Int64 :=
  let q := a / b
  if a % b != 0 && (decide (a < 0) != decide (b < 0)) then ofInt? (q.toInt - 1) else some q

/-- The remainder, given up where its correction leaves the words. -/
def floorMod? (a b : Int64) : Option Int64 :=
  let r := a % b
  if r != 0 && (decide (r < 0) != decide (b < 0)) then ofInt? (r.toInt + b.toInt) else some r

theorem floorMod?_eq (a : Int64) (hb : b ≠ 0) : floorMod? a b = some (floorMod a b) := by
  simp only [floorMod?, remainder_test, floorMod_eq]
  by_cases h : Uneven a b
  · have hmod := (fdiv_fmod_of_uneven (toInt_ne_zero hb) h).2
    rw [if_pos h, if_pos h, Int64.toInt_mod, ← hmod, ofInt?_of_fits (fits_fmod a hb),
      ← floorMod_eq_ofInt a hb, floorMod_eq, if_pos h]
  · rw [if_neg h, if_neg h]

theorem floorDiv?_eq (a : Int64) (hb : b ≠ 0) : floorDiv? a b = some (floorDiv a b) := by
  simp only [floorDiv?, quotient_test, floorDiv_eq]
  by_cases h : Uneven a b
  · -- nothing is left over when the smallest word is divided by -1
    have hcorner : ¬(a = .minValue ∧ b = -1) := by
      rintro ⟨rfl, rfl⟩
      exact absurd h (by decide)
    have hquot : (a / b).toInt = a.toInt.tdiv b.toInt := by
      by_cases ha : a = .minValue
      · exact Int64.toInt_div_of_ne_right a b fun hb' => hcorner ⟨ha, hb'⟩
      · exact Int64.toInt_div_of_ne_left a b ha
    have hdiv := (fdiv_fmod_of_uneven (toInt_ne_zero hb) h).1
    rw [if_pos h, if_pos h, hquot, ← hdiv, ofInt?_of_fits (fits_fdiv hb hcorner),
      ← floorDiv_eq_ofInt a hb, floorDiv_eq, if_pos h]
  · rw [if_neg h, if_neg h]

/-! ### Floor division -/

/-- Two words are the quotient and the remainder of floor division. -/
structure FloorDivision (a b q r : Int64) : Prop where
  remainder : r.toInt = a.toInt - b.toInt * a.toInt.fdiv b.toInt
  /-- A remainder has the sign of the divisor. -/
  sign : r = 0 ∨ r.toInt.sign = b.toInt.sign
  smaller : r.toInt.natAbs < b.toInt.natAbs
  quotient : ¬(a = .minValue ∧ b = -1) → q.toInt = a.toInt.fdiv b.toInt
  /-- The quotient that is no word wraps. -/
  wraps : a = .minValue → b = -1 → q = .minValue
  /-- In wrapping arithmetic, quotient and remainder give back the dividend. -/
  restores : q * b + r = a

theorem floorDivision (a : Int64) (hb : b ≠ 0) :
    FloorDivision a b (floorDiv a b) (floorMod a b) := by
  have hne := toInt_ne_zero hb
  have hmod : (floorMod a b).toInt = a.toInt.fmod b.toInt := by
    rw [floorMod_eq_ofInt a hb, toInt_ofInt_of_fits (fits_fmod a hb)]
  refine ⟨?_, ?_, ?_, ?_, ?_, ?_⟩
  · rw [hmod, Int.fmod_def]
  · rcases sign_fmod a.toInt hne with hzero | hsign
    · exact .inl (Int64.toInt_inj.mp (hmod.trans hzero))
    · rw [hmod]
      exact .inr hsign
  · rw [hmod]
    exact (fmod_bounds a.toInt hne).1
  · intro hcorner
    rw [floorDiv_eq_ofInt a hb, toInt_ofInt_of_fits (fits_fdiv hb hcorner)]
  · rintro rfl rfl
    rfl
  · calc floorDiv a b * b + floorMod a b
        = Int64.ofInt (a.toInt.fdiv b.toInt * b.toInt + a.toInt.fmod b.toInt) := by
          rw [floorDiv_eq_ofInt a hb, floorMod_eq_ofInt a hb, Int64.ofInt_add, Int64.ofInt_mul,
            Int64.ofInt_toInt]
      _ = a := by rw [Int.fdiv_mul_add_fmod, Int64.ofInt_toInt]

/-- The smallest word by `-1` wraps, and nothing is left. -/
example : floorDiv .minValue (-1) = .minValue ∧ floorMod .minValue (-1) = 0 := by decide

end Integer

/--
**Floor division of whole numbers is exact.**  Remainder and quotient are those of floor
division, with a wrapped quotient for the smallest word by -1 only; together they give back
the dividend in every case; and the answers are the same if a correction is given up where
it leaves the words, so that none does.  By zero both are empty.
-/
theorem floor_division_is_exact {u v : Value} {a b : Int64} (hu : u.data.whole? = some a)
    (hv : v.data.whole? = some b) :
    (b ≠ 0 → ∃ q r : Int64,
      BinaryOp.floorDiv.apply u v = .int q ∧ BinaryOp.mod.apply u v = .int r ∧
      Integer.FloorDivision a b q r ∧
      ((BinaryOp.floorDiv.apply u v).mul v.data).add (BinaryOp.mod.apply u v) = .int a ∧
      Integer.floorDiv? a b = some q ∧ Integer.floorMod? a b = some r) ∧
    (b = 0 → BinaryOp.floorDiv.apply u v = .empty ∧ BinaryOp.mod.apply u v = .empty) := by
  have hdiv : BinaryOp.floorDiv.apply u v = (Operands.ints a b).floorDiv :=
    Payload.numeric_of_whole Operands.floorDiv hu hv
  have hmod : BinaryOp.mod.apply u v = (Operands.ints a b).mod :=
    Payload.numeric_of_whole Operands.mod hu hv
  rw [hdiv, hmod]
  constructor
  · intro hb
    have hbeq : ¬(b == 0) = true := by simpa using hb
    have hdivision := Integer.floorDivision a hb
    refine ⟨Integer.floorDiv a b, Integer.floorMod a b, if_neg hbeq, if_neg hbeq, hdivision, ?_,
      Integer.floorDiv?_eq a hb, Integer.floorMod?_eq a hb⟩
    rw [show (Operands.ints a b).floorDiv = .int (Integer.floorDiv a b) from if_neg hbeq,
      show (Operands.ints a b).mod = .int (Integer.floorMod a b) from if_neg hbeq,
      Payload.mul_of_whole rfl hv, Payload.add_of_whole rfl rfl, hdivision.restores]
  · rintro rfl
    exact ⟨rfl, rfl⟩

/-- The boolean `true` is one; rounded down, one by minus two is minus one with minus one left. -/
theorem floor_division_is_exact_oneByMinusTwo :
    (Value.ofBool true).data.whole? = some 1 ∧ (Value.ofInt (-2)).data.whole? = some (-2) ∧
      BinaryOp.floorDiv.apply (.ofBool true) (.ofInt (-2)) = .int (-1) ∧
      BinaryOp.mod.apply (.ofBool true) (.ofInt (-2)) = .int (-1) ∧
      Integer.FloorDivision 1 (-2) (-1) (-1) := by
  have hu : (Value.ofBool true).data.whole? = some 1 := rfl
  have hv : (Value.ofInt (-2)).data.whole? = some (-2) := rfl
  obtain ⟨q, r, hq, hr, hdivision, -⟩ := (floor_division_is_exact hu hv).1 (by decide)
  have hquot : BinaryOp.floorDiv.apply (.ofBool true) (.ofInt (-2)) = .int (-1) := rfl
  have hrest : BinaryOp.mod.apply (.ofBool true) (.ofInt (-2)) = .int (-1) := rfl
  obtain rfl : q = -1 := Payload.int.inj (hq.symm.trans hquot)
  obtain rfl : r = -1 := Payload.int.inj (hr.symm.trans hrest)
  exact ⟨hu, hv, hquot, hrest, hdivision⟩

end TemplateExpr
