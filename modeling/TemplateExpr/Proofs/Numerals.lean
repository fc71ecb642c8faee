/-
Integers are read back from their texts.

The text of an integer is a row of decimal digits, after a minus sign if the integer is
negative.  Reading counts the digits and negates them after a minus sign, so it ends at the
integer itself, and only an integer that no word stands for is refused.  No digit and no sign
is whitespace, so blanks around the text are stripped and nothing of the integer goes with
them; and since a text is read as an integer before it is read as a double, no digit is lost.
-/
import TemplateExpr.Proofs.Arithmetic.Whole
import TemplateExpr.Proofs.Trim
import TemplateExpr.Proofs.Unicode.Classes

namespace TemplateExpr

open Unicode (Ranges isWhitespace)

namespace NumberText

/-- The decimal notation of an integer. -/
inductive Decimal : List Char → Int → Prop
  | digits (k : Nat) : Decimal (Nat.toDigits 10 k) k
  | minus (k : Nat) : Decimal ('-' :: Nat.toDigits 10 k) (-k)

variable {cs : List Char} {n : Int}

theorem decimal_repr (n : Int) : Decimal n.repr.toList n := by
  rw [Int.repr_eq_if]
  split
  next hpos =>
    rw [Nat.toList_repr]
    have h := Decimal.digits n.toNat
    rwa [Int.toNat_of_nonneg hpos] at h
  next hneg =>
    rw [String.toList_append, Nat.toList_repr]
    have h := Decimal.minus (-n).toNat
    rwa [Int.toNat_of_nonneg (by omega), Int.neg_neg] at h

/-! ### Digits

A natural number is written with `Nat.toDigits` and read by a fold over its digits, and
that the fold gives back the number is a fact of the library.  What has to be added is
that no digit is taken for a sign or for whitespace.
-/

theorem isDigit_of_mem {k : Nat} {c : Char} (h : c ∈ Nat.toDigits 10 k) : c.isDigit = true :=
  Nat.isDigit_of_mem_toDigits (by decide) (by decide) h

theorem isWhitespace_eq_false_of_isDigit {c : Char} (h : c.isDigit = true) :
    isWhitespace c = false := by
  obtain ⟨hlow, hhigh⟩ := Char.isDigit_iff_toNat.mp h
  exact Ranges.contains_eq_false_of_apart (r := [(0x30, 0x39)]) (by decide)
    (Ranges.contains_eq_true.mpr ⟨0x30, 0x39, List.mem_singleton_self _, hlow, hhigh⟩)

/-- A row of digits has no sign to take off. -/
theorem splitSign_of_digits (h : ∀ c ∈ cs, c.isDigit = true) : splitSign cs = (false, cs) := by
  unfold splitSign
  split
  · exact absurd (h '-' List.mem_cons_self) (by decide)
  · exact absurd (h '+' List.mem_cons_self) (by decide)
  · rfl

theorem readInt64?_of_splitSign {negative : Bool} {k : Nat}
    (h : splitSign cs = (negative, Nat.toDigits 10 k)) :
    readInt64? cs = Integer.ofInt? (if negative then -(k : Int) else k) := by
  have hall : (Nat.toDigits 10 k).all Char.isDigit = true :=
    List.all_eq_true.mpr fun c hc => isDigit_of_mem hc
  have hempty : (Nat.toDigits 10 k).isEmpty = false :=
    List.isEmpty_eq_false_iff.mpr Nat.toDigits_ne_nil
  unfold readInt64?
  rw [h]
  dsimp only
  rw [hempty, hall, ofDigits, Nat.ofDigitChars_ten_toDigits]
  rfl

/-! ### Decimal notation -/

namespace Decimal

theorem ne_nil (h : Decimal cs n) : cs ≠ [] := by
  cases h with
  | digits k => exact Nat.toDigits_ne_nil
  | minus k => exact List.cons_ne_nil _ _

theorem solid (h : Decimal cs n) : ∀ c ∈ cs, isWhitespace c = false := by
  have hdigits : ∀ k, ∀ c ∈ Nat.toDigits 10 k, isWhitespace c = false :=
    fun _ _ hc => isWhitespace_eq_false_of_isDigit (isDigit_of_mem hc)
  cases h with
  | digits k => exact hdigits k
  | minus k => exact List.forall_mem_cons.mpr ⟨by decide, hdigits k⟩

/-- Reading the decimal notation of an integer asks for its word and does nothing else. -/
theorem readInt64?_eq (h : Decimal cs n) : readInt64? cs = Integer.ofInt? n := by
  cases h with
  | digits k =>
      have hsplit : splitSign (Nat.toDigits 10 k) = (false, Nat.toDigits 10 k) :=
        splitSign_of_digits fun c hc => isDigit_of_mem hc
      rw [readInt64?_of_splitSign hsplit, if_neg Bool.false_ne_true]
  | minus k =>
      have hsplit : splitSign ('-' :: Nat.toDigits 10 k) = (true, Nat.toDigits 10 k) := rfl
      rw [readInt64?_of_splitSign hsplit, if_pos rfl]

end Decimal

end NumberText

/-! ### The text of a value

A text is tried as an integer first, after whitespace at its ends has been dropped.
Since the decimal notation has no whitespace at its own ends, nothing of it goes with
that.
-/

/-- A text is read as an integer, whatever blanks stand around it. -/
theorem Text.toInt?_of_decimal {x y cs : List Char} {n : Int64} {t : Text} (hx : Trim.Blank x)
    (hy : Trim.Blank y) (hcs : NumberText.Decimal cs n.toInt) (ht : t.chars = x ++ (cs ++ y)) :
    t.toInt? = some n := by
  unfold toInt?
  rw [ht, Trim.ends_of_solid hx hy hcs.solid hcs.ne_nil]
  dsimp only
  rw [hcs.readInt64?_eq, Integer.ofInt?_toInt]

theorem Value.decimal_toText (n : Int64) (w : CharWidth) :
    NumberText.Decimal ((ofInt n).toText w).chars n.toInt := by
  show NumberText.Decimal (Text.ofString (Integer.text n) w).chars n.toInt
  rw [Text.chars_ofString]
  exact NumberText.decimal_repr n.toInt

/--
**Integers survive a trip through text.**  The text of an integer, in any width and with any
blanks around it, is read as the integer whatever the default is, and two integers never have
the same text.
-/
theorem integers_survive_text {x y : List Char} (hx : Trim.Blank x) (hy : Trim.Blank y)
    (n : Int64) (w : CharWidth) :
    (∀ w' default, (Value.ofText (.ofChars (x ++ ((Value.ofInt n).toText w).chars ++ y) w')).toInt
      default = n) ∧
    ∀ m w', ((Value.ofInt m).toText w').chars = ((Value.ofInt n).toText w).chars → m = n := by
  refine ⟨fun w' default => ?_, fun m w' hsame => ?_⟩
  · have h : Text.toInt? (.ofChars (x ++ ((Value.ofInt n).toText w).chars ++ y) w') = some n :=
      Text.toInt?_of_decimal hx hy (Value.decimal_toText n w)
        (by rw [Text.chars_ofChars, List.append_assoc])
    show (Text.toInt? _).getD default = n
    rw [h, Option.getD_some]
  · have hm := (Value.decimal_toText m w').readInt64?_eq
    rw [hsame, (Value.decimal_toText n w).readInt64?_eq, Integer.ofInt?_toInt,
      Integer.ofInt?_toInt] at hm
    exact (Option.some.inj hm).symm

/-- The smallest integer between a tab and an ideographic space, read as wide text. -/
theorem integers_survive_text_smallest :
    (Value.ofText (.ofChars
        (['\t'] ++ ((Value.ofInt Int64.minValue).toText .narrow).chars ++ ['\u3000'])
        .wide)).toInt 7 = Int64.minValue :=
  (integers_survive_text (List.forall_mem_singleton.mpr (by decide))
    (List.forall_mem_singleton.mpr (by decide)) Int64.minValue .narrow).1 .wide 7

end TemplateExpr
