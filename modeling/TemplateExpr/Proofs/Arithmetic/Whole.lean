/-
Whole numbers as operands.

Integers and booleans are whole numbers.  Two of them are combined as words by every
numeric operator.  Where no double is involved, a payload that is no whole number is no
number at all, and what a numeric operator makes of it is empty.

A word stands for an integer in its range; an integer that fits the range is that of one
word.
-/
import Mathlib.Algebra.Group.Int.Defs
import TemplateExpr.Arithmetic

namespace TemplateExpr

/-! ### Words -/

namespace Integer

variable {n : Int}

/-- An integer that a word can stand for. -/
def Fits (n : Int) : Prop := -2 ^ 63 ≤ n ∧ n < 2 ^ 63

instance : Decidable (Fits n) := inferInstanceAs (Decidable (_ ∧ _))

theorem fits_toInt (w : Int64) : Fits w.toInt := ⟨w.le_toInt, w.toInt_lt⟩

theorem toInt_ofInt_of_fits (h : Fits n) : (Int64.ofInt n).toInt = n :=
  Int64.toInt_ofInt_of_le h.1 h.2

theorem ofInt?_of_fits (h : Fits n) : ofInt? n = some (Int64.ofInt n) := if_pos h

theorem ofInt?_of_not_fits (h : ¬Fits n) : ofInt? n = none := if_neg h

theorem ofInt?_toInt (w : Int64) : ofInt? w.toInt = some w := by
  rw [ofInt?_of_fits (fits_toInt w), Int64.ofInt_toInt]

end Integer

/-! ### Operands -/

namespace Payload

variable {p q : Payload Value} {i j : Int64}

theorem operands?_of_whole (hp : p.whole? = some i) (hq : q.whole? = some j) :
    p.operands? q = some (.ints i j) := by
  unfold operands?
  rw [hp, hq]

theorem numeric_of_whole (f : Operands → Payload Value) (hp : p.whole? = some i)
    (hq : q.whole? = some j) : numeric f p q = f (.ints i j) := by
  rw [numeric, operands?_of_whole hp hq]

theorem add_of_whole (hp : p.whole? = some i) (hq : q.whole? = some j) :
    p.add q = .int (i + j) := by
  have hnumeric := numeric_of_whole Operands.add hp hq
  cases p with
  | bool b => exact hnumeric
  | int i => exact hnumeric
  | _ => simp [whole?] at hp

theorem mul_of_whole (hp : p.whole? = some i) (hq : q.whole? = some j) :
    p.mul q = .int (i * j) := by
  have hnumeric := numeric_of_whole Operands.mul hp hq
  cases p with
  | bool b => exact hnumeric
  | int i =>
      cases q with
      | bool b => exact hnumeric
      | int j => exact hnumeric
      | _ => simp [whole?] at hq
  | _ => simp [whole?] at hp

/-! ### Where no double is involved -/

/-- What is neither a double nor a whole number is no number. -/
theorem toDouble?_eq_none (hp : ∀ d, p ≠ .double d) (hwhole : p.whole? = none) :
    p.toDouble? = none := by
  cases p with
  | double d => exact absurd rfl (hp d)
  | bool b => exact absurd hwhole (by simp [whole?])
  | int i => exact absurd hwhole (by simp [whole?])
  | _ => rfl

theorem operands?_eq_none (hp : ∀ d, p ≠ .double d) (hq : ∀ d, q ≠ .double d)
    (hwhole : p.whole? = none ∨ q.whole? = none) : p.operands? q = none := by
  unfold operands?
  rcases hwhole with hwhole | hwhole
  · rw [hwhole, toDouble?_eq_none hp hwhole]
  · rw [hwhole, toDouble?_eq_none hq hwhole]
    cases p.whole? <;> cases p.toDouble? <;> rfl

theorem numeric_eq_empty (f : Operands → Payload Value) (hp : ∀ d, p ≠ .double d)
    (hq : ∀ d, q ≠ .double d) (hwhole : p.whole? = none ∨ q.whole? = none) :
    numeric f p q = .empty := by
  rw [numeric, operands?_eq_none hp hq hwhole]

end Payload

end TemplateExpr
