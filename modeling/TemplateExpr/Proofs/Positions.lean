/-
The position that an index means.

An index counts from the front or, if it is negative, from the end.  It means a position
only of a length that is a word itself.
-/
import Mathlib.Algebra.Group.Int.Defs
import TemplateExpr.Index

namespace TemplateExpr

variable {n : Nat} {k : Int64}

/-- An index from the front means itself. -/
theorem position?_front (hn : (n : Int) < 2 ^ 63) (hge : 0 ≤ k.toInt) (hlt : k.toInt < n) :
    position? n k = some k.toInt.toNat := by
  have hword : n < Nat.pow 2 63 := by
    show n < 9223372036854775808
    omega
  have hsign : ¬k < 0 := fun h => Int.not_lt.mpr hge (Int64.lt_iff_toInt_lt.mp h)
  unfold position?
  rw [if_pos hword]
  dsimp only
  rw [if_neg hsign, if_pos ⟨hge, hlt⟩]

/-- A negative index counts from the end. -/
theorem position?_back (hn : (n : Int) < 2 ^ 63) (hge : -n ≤ k.toInt) (hneg : k.toInt < 0) :
    position? n k = some (k.toInt + n).toNat := by
  have hword : n < Nat.pow 2 63 := by
    show n < 9223372036854775808
    omega
  have hsign : k < 0 := Int64.lt_iff_toInt_lt.mpr hneg
  unfold position?
  rw [if_pos hword]
  dsimp only
  rw [if_pos hsign, if_pos ⟨by omega, by omega⟩]

/-- An index outside a length means nothing, and no index means anything in a length too long. -/
theorem position?_eq_none (h : k.toInt < -n ∨ n ≤ k.toInt ∨ (2 : Int) ^ 63 ≤ n) :
    position? n k = none := by
  unfold position?
  by_cases hword : n < Nat.pow 2 63
  · have hword' : n < 9223372036854775808 := hword
    rw [if_pos hword]
    dsimp only
    by_cases hsign : k < 0
    · have hneg : k.toInt < 0 := Int64.lt_iff_toInt_lt.mp hsign
      rw [if_pos hsign, if_neg (by omega)]
    · have hge : 0 ≤ k.toInt := Int.not_lt.mp fun h => hsign (Int64.lt_iff_toInt_lt.mpr h)
      rw [if_neg hsign, if_neg (by omega)]
  · exact if_neg hword

end TemplateExpr
