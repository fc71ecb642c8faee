/-
What the character classes have to do with each other.

No whitespace character belongs to a word, and a letter belongs to one in either case.
Only the letters of ASCII have another case here, which is why a word can be given a
capital without becoming another word.
-/
import TemplateExpr.Unicode.CharClass

namespace TemplateExpr.Unicode

/-! ### Whitespace

The character classes are tables of ranges, and two tables of which no two ranges meet
have no code point in common.  Whether ranges meet is read off their ends, so the tables
are compared as they stand and no character is tried.
-/

/-- Whether no range of `r` meets one of `s`. -/
def Ranges.apart (r s : Ranges) : Bool :=
  r.all fun (a, b) => s.all fun (c, d) => b < c || d < a

theorem Ranges.contains_eq_true {r : Ranges} {n : Nat} :
    r.contains n = true ↔ ∃ a b, (a, b) ∈ r ∧ a ≤ n ∧ n ≤ b := by
  simp only [Ranges.contains, List.any_eq_true, Prod.exists, Bool.and_eq_true, decide_eq_true_eq]

theorem Ranges.contains_eq_false_of_apart {r s : Ranges} {n : Nat} (h : r.apart s = true)
    (hn : r.contains n = true) : s.contains n = false := by
  rw [← Bool.not_eq_true]
  intro hs
  obtain ⟨a, b, hr, ha, hb⟩ := Ranges.contains_eq_true.mp hn
  obtain ⟨c, d, hs, hc, hd⟩ := Ranges.contains_eq_true.mp hs
  have hmeet := List.all_eq_true.mp (List.all_eq_true.mp h (a, b) hr) (c, d) hs
  simp only [Bool.or_eq_true, decide_eq_true_eq] at hmeet
  omega

theorem whitespace_apart_alphabetic : whitespace.apart alphabetic = true := by decide +kernel

theorem whitespace_apart_numeric : whitespace.apart numeric = true := by decide +kernel

/-- What separates words is not part of one. -/
theorem isAlphanumeric_eq_false_of_isWhitespace {c : Char} (h : isWhitespace c = true) :
    isAlphanumeric c = false := by
  unfold isAlphanumeric isAlphabetic isNumeric
  rw [Ranges.contains_eq_false_of_apart whitespace_apart_alphabetic h,
    Ranges.contains_eq_false_of_apart whitespace_apart_numeric h]
  rfl

/-! ### Letters with another case

Changing the case of a character is moving it by a fixed distance if it lies between two
code points.  Put that way, how the two changes and the classes interact is arithmetic.
-/

section

variable {c : Char}

@[grind =] theorem isUpper_iff : c.isUpper = true ↔ 65 ≤ c.toNat ∧ c.toNat ≤ 90 :=
  decide_eq_true_iff

@[grind =] theorem isLower_iff : c.isLower = true ↔ 97 ≤ c.toNat ∧ c.toNat ≤ 122 := by
  show (decide _ && decide _) = true ↔ _
  rw [Bool.and_eq_true, decide_eq_true_eq, decide_eq_true_eq]
  exact Iff.rfl

@[grind =] theorem isAlpha_iff : c.isAlpha = true ↔ c.isUpper = true ∨ c.isLower = true :=
  Bool.or_eq_true_iff

@[grind =] theorem toNat_toUpper (c : Char) :
    c.toUpper.toNat = if 97 ≤ c.toNat ∧ c.toNat ≤ 122 then c.toNat - 32 else c.toNat := by
  by_cases h : 97 ≤ c.toNat ∧ c.toNat ≤ 122
  · have hbounds : 'a'.val ≤ c.val ∧ c.val ≤ 'z'.val := h
    have hcase : c.toUpper = _ := dif_pos hbounds
    rw [if_pos h, hcase]
    show (c.val + ('A'.val - 'a'.val)).toNat = c.toNat - 32
    -- The difference of the two letters wraps, so adding it takes 32 away.
    rw [UInt32.toNat_add, show ('A'.val - 'a'.val).toNat = 2 ^ 32 - 32 from rfl, Char.toNat_val]
    omega
  · rw [if_neg h]
    exact congrArg Char.toNat (dif_neg h)

@[grind =] theorem toNat_toLower (c : Char) :
    c.toLower.toNat = if 65 ≤ c.toNat ∧ c.toNat ≤ 90 then c.toNat + 32 else c.toNat := by
  by_cases h : 65 ≤ c.toNat ∧ c.toNat ≤ 90
  · have hbounds : 'A'.val ≤ c.val ∧ c.val ≤ 'Z'.val := h
    have hcase : c.toLower = _ := dif_pos hbounds
    rw [if_pos h, hcase]
    show (c.val + ('a'.val - 'A'.val)).toNat = c.toNat + 32
    rw [UInt32.toNat_add, show ('a'.val - 'A'.val).toNat = 32 from rfl, Char.toNat_val]
    omega
  · rw [if_neg h]
    exact congrArg Char.toNat (dif_neg h)

theorem isUpper_toUpper (c : Char) : c.toUpper.isUpper = c.isAlpha := by grind

theorem toUpper_ne_self_iff : c.toUpper ≠ c ↔ c.isLower = true := by
  rw [ne_eq, ← Char.toNat_inj]
  grind

theorem toUpper_toUpper (c : Char) : c.toUpper.toUpper = c.toUpper := by
  rw [← Char.toNat_inj]
  grind

theorem toUpper_toLower (c : Char) : c.toLower.toUpper = c.toUpper := by
  rw [← Char.toNat_inj]
  grind

theorem toLower_toUpper_of_isLower (h : c.isLower = true) : c.toUpper.toLower = c := by
  rw [← Char.toNat_inj]
  grind

/-! ### Letters belong to words

The letters of ASCII are alphabetic, and so are their other cases.  Changing the case of
a character never takes it out of a word or puts it into one.
-/

theorem isAlphabetic_of_isAlpha (h : c.isAlpha = true) : isAlphabetic c = true := by
  unfold isAlphabetic
  rw [Ranges.contains_eq_true]
  rw [isAlpha_iff, isUpper_iff, isLower_iff] at h
  obtain h | h := h
  · exact ⟨0x41, 0x5a, List.mem_cons_self, h⟩
  · exact ⟨0x61, 0x7a, List.mem_cons_of_mem _ List.mem_cons_self, h⟩

theorem isAlphanumeric_of_isAlpha (h : c.isAlpha = true) : isAlphanumeric c = true := by
  rw [isAlphanumeric, isAlphabetic_of_isAlpha h, Bool.true_or]

theorem toUpper_of_isAlpha_eq_false (h : c.isAlpha = false) : c.toUpper = c := by
  rw [← Char.toNat_inj]
  grind

theorem toLower_of_isAlpha_eq_false (h : c.isAlpha = false) : c.toLower = c := by
  rw [← Char.toNat_inj]
  grind

@[simp] theorem isAlphanumeric_toUpper (c : Char) :
    isAlphanumeric c.toUpper = isAlphanumeric c := by
  cases h : c.isAlpha with
  | false => rw [toUpper_of_isAlpha_eq_false h]
  | true =>
      have hupper : c.toUpper.isAlpha = true := by grind
      rw [isAlphanumeric_of_isAlpha h, isAlphanumeric_of_isAlpha hupper]

@[simp] theorem isAlphanumeric_toLower (c : Char) :
    isAlphanumeric c.toLower = isAlphanumeric c := by
  cases h : c.isAlpha with
  | false => rw [toLower_of_isAlpha_eq_false h]
  | true =>
      have hlower : c.toLower.isAlpha = true := by grind
      rw [isAlphanumeric_of_isAlpha h, isAlphanumeric_of_isAlpha hlower]

end

end TemplateExpr.Unicode
