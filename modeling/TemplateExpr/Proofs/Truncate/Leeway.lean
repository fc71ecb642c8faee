/-
How far the leeway lets a text go beyond the length.

The hard cut takes a negative leeway for zero.  The soft cut counts it down, and from a
negative number it never comes to zero: the word at the length then runs on to its end,
however long it is.  So the leeway bounds what is kept in all cases but one, a soft cut with
a negative leeway inside or at the start of a word, and for that one it is said here what
happens instead.
-/
import Mathlib.Algebra.Group.Nat.Defs
import TemplateExpr.Proofs.Truncate.Cut

namespace TemplateExpr.Truncate

open Unicode (isWhitespace isAlphanumeric)

variable {L n : Nat} {length leeway : Int64} {splitWords : Bool} {c : Char}
  {cs ending text : List Char}

/-! ### What is kept -/

/-- A text is kept, or at most `n` characters from its start are, with the end text behind them. -/
def Keeps (n : Nat) (ending cs text : List Char) : Prop :=
  text = cs ∨ ∃ kept, kept <+: cs ∧ kept.length ≤ n ∧ text = kept ++ ending

theorem Keeps.mono {m : Nat} (h : Keeps n ending cs text) (hle : n ≤ m) :
    Keeps m ending cs text := by
  obtain htext | ⟨kept, hkept, hlength, htext⟩ := h
  · exact .inl htext
  · exact .inr ⟨kept, hkept, Nat.le_trans hlength hle, htext⟩

theorem keeps_hard (L : Nat) (ending : List Char) (leeway : Int64) (cs : List Char) :
    Keeps L ending cs (hard L ending leeway cs) := by
  rw [hard]
  split
  · exact .inl rfl
  · exact .inr ⟨cs.take L, List.take_prefix _ _, List.length_take_le _ _, rfl⟩

theorem keeps_soft (hL : L < cs.length) (hn : leeway.toInt = n) :
    Keeps (L + n) ending cs (soft L ending leeway cs) := by
  have hcount := toNat_toUInt64_of_eq hn
  by_cases hfits : Fits L n cs
  · obtain ⟨hrun, hend⟩ := wordRun_eq_of_fits hL hfits
    exact .inl (soft_of_run_to_end hcount hrun hend)
  · obtain ⟨j, hcut, hsoft⟩ := exists_softCut ending hL hcount hfits
    exact .inr ⟨_, (dropEndWhile_isPrefix _ _).trans (List.take_prefix j cs), hcut.length_le, hsoft⟩

/-- At a separator the soft cut is made at the length, whatever the leeway. -/
theorem soft_at_separator (hget : cs[L]? = some c) (hc : isAlphanumeric c = false)
    (leeway : Int64) :
    soft L ending leeway cs = Trim.dropEndWhile isWhitespace (cs.take L) ++ ending := by
  refine soft_of_separator ?_ hget hc
  rw [drop_of_getElem? hget, overrun_cons_of_separator hc, Nat.add_zero]

/-! ### A word that runs on

Counting down from a negative leeway misses zero and goes on until the word ends.  How
far that is does not depend on the leeway, unless the count falls below the smallest
word on the way.
-/

/-- A negative leeway and a character at the length that belongs to a word. -/
def RunsOn (L : Nat) (leeway : Int64) (cs : List Char) : Prop :=
  leeway.toInt < 0 ∧ ∃ c, cs[L]? = some c ∧ isAlphanumeric c = true

theorem separator_of_not_runsOn (hL : L < cs.length) (hruns : ¬RunsOn L leeway cs)
    (hneg : leeway.toInt < 0) : Separator cs L := by
  have hget : cs[L]? = some cs[L] := List.getElem?_eq_getElem hL
  refine ⟨cs[L], hget, ?_⟩
  rw [← Bool.not_eq_true]
  exact fun hc => hruns ⟨hneg, cs[L], hget, hc⟩

theorem wordRun_pos_of_word (hget : cs[L]? = some c) (hc : isAlphanumeric c = true) :
    1 ≤ wordRun (cs.drop L) := by
  rw [drop_of_getElem? hget, wordRun_cons_of_word hc]
  exact Nat.le_add_left 1 _

/-- A negative leeway lets the word at the length run on to its end. -/
theorem overrun_of_neg (hneg : leeway.toInt < 0) (hshort : cs.length < 2 ^ 63) :
    overrun leeway cs = wordRun cs := by
  have hread := toNat_toUInt64 leeway
  have hmin := leeway.le_toInt
  have hrun := wordRun_le_length cs
  rw [if_pos hneg] at hread
  rw [overrun_eq_min]
  exact Nat.min_eq_right (by omega)

theorem dropEndWhile_take_of_word {i : Nat} (hget : cs[i]? = some c)
    (hc : isAlphanumeric c = true) :
    Trim.dropEndWhile isWhitespace (cs.take (i + 1)) = cs.take (i + 1) := by
  have hspace : ¬isWhitespace c = true := fun hspace =>
    ne_true_of_eq_false (Unicode.isAlphanumeric_eq_false_of_isWhitespace hspace) hc
  rw [List.take_add_one, hget, Option.toList_some]
  exact List.rdropWhile_concat_neg _ _ _ hspace

section

variable (hruns : RunsOn L leeway cs) (hshort : cs.length < 2 ^ 63)

include hruns hshort

theorem RunsOn.pos_eq : L + overrun leeway (cs.drop L) = L + wordRun (cs.drop L) := by
  have hlength : (cs.drop L).length < 2 ^ 63 := by
    rw [List.length_drop]
    omega
  rw [overrun_of_neg hruns.1 hlength]

theorem RunsOn.soft_to_end (hend : L + wordRun (cs.drop L) = cs.length) :
    soft L ending leeway cs = cs :=
  soft_of_end ((hruns.pos_eq hshort).trans hend) List.drop_length

/-- The cut is made behind the word, and there is nothing to strip. -/
theorem RunsOn.soft_cut (hend : L + wordRun (cs.drop L) < cs.length) :
    soft L ending leeway cs = cs.take (L + wordRun (cs.drop L)) ++ ending := by
  obtain ⟨c, hget, hc⟩ : Separator cs (L + wordRun (cs.drop L)) :=
    separator_drop.mp (separator_wordRun (by rw [List.length_drop]; omega))
  rw [soft_of_separator (hruns.pos_eq hshort) hget hc]
  obtain ⟨-, d, hfirst, hd⟩ := hruns
  obtain ⟨r, hr⟩ : ∃ r, wordRun (cs.drop L) = r + 1 :=
    Nat.exists_eq_add_one.mpr (wordRun_pos_of_word hfirst hd)
  obtain ⟨e, hlast, he⟩ := word_of_lt_wordRun (show r < wordRun (cs.drop L) by omega)
  rw [List.getElem?_drop] at hlast
  rw [hr, ← Nat.add_assoc, dropEndWhile_take_of_word hlast he]

/-- No leeway at all keeps less. -/
theorem RunsOn.soft_ne (hend : L + wordRun (cs.drop L) < cs.length) :
    soft L ending leeway cs ≠ soft L ending 0 cs := by
  have hcut : soft L ending leeway cs = _ := hruns.soft_cut hshort hend
  obtain ⟨-, c, hget, hc⟩ := hruns
  have hpos := wordRun_pos_of_word hget hc
  have hfits : ¬Fits L 0 cs := by
    rintro (hle | ⟨hle, -⟩)
    · omega
    · rw [List.length_drop] at hle
      omega
  have hzero : (0 : Int64).toUInt64.toNat = 0 := rfl
  obtain ⟨j, hsoft, hzero⟩ := exists_softCut ending (by omega) hzero hfits
  have hkept := hsoft.length_le
  intro heq
  rw [hcut, hzero] at heq
  have hlength := congrArg List.length (List.append_cancel_right heq)
  rw [List.length_take_of_le (Nat.le_of_lt hend)] at hlength
  omega

end

/-- The leeway falls below the smallest word exactly when a word is too long for it. -/
theorem truncate?_eq_none_iff (hlength : (L : Int) = max length.toInt 0) (hneg : leeway.toInt < 0) :
    truncate? length false ending leeway cs = none ↔
      leeway.toInt + 2 ^ 63 < (wordRun (cs.drop L) : Int) := by
  refine ⟨fun hnone => ?_, fun hrun => ?_⟩
  · refine Int.lt_of_not_ge fun hle => ?_
    rw [truncate?_false hlength fun _ => hle] at hnone
    cases hnone
  · have hmin := leeway.le_toInt
    have hle := wordRun_le_length (cs.drop L)
    rw [List.length_drop] at hle
    rw [truncate?, toNatClampNeg_eq hlength, if_neg (by omega), if_neg Bool.false_ne_true,
      walk?_eq_none hneg hrun]

/-! ### What the leeway bounds

Where the leeway is negative and no word is cut, the cut is made at a separator before
anything has been counted.  So what is kept is what a leeway of zero keeps.
-/

theorem hard_of_neg (hneg : leeway.toInt < 0) : hard L ending leeway cs = hard L ending 0 cs := by
  rw [hard_eq, hard_eq, Int64.toInt_zero]
  exact if_congr (by omega) rfl rfl

section

variable (hL : L < cs.length) (hruns : ¬RunsOn L leeway cs)

include hL hruns

theorem keeps_soft_of_not_runsOn :
    Keeps (L + leeway.toInt.toNat) ending cs (soft L ending leeway cs) := by
  obtain hneg | hpos := lt_or_ge leeway.toInt 0
  · obtain ⟨c, hget, hc⟩ := separator_of_not_runsOn hL hruns hneg
    refine .inr ⟨_, (dropEndWhile_isPrefix _ _).trans (List.take_prefix L cs), ?_,
      soft_at_separator hget hc leeway⟩
    calc (Trim.dropEndWhile isWhitespace (cs.take L)).length
      _ ≤ (cs.take L).length := (dropEndWhile_isPrefix _ _).length_le
      _ ≤ L := List.length_take_le L cs
      _ ≤ L + leeway.toInt.toNat := Nat.le_add_right _ _
  · exact keeps_soft hL (Int.toNat_of_nonneg hpos).symm

theorem soft_of_neg (hneg : leeway.toInt < 0) : soft L ending leeway cs = soft L ending 0 cs := by
  obtain ⟨c, hget, hc⟩ := separator_of_not_runsOn hL hruns hneg
  rw [soft_at_separator hget hc, soft_at_separator hget hc]

theorem wordRun_of_neg (hneg : leeway.toInt < 0) :
    (wordRun (cs.drop L) : Int) ≤ leeway.toInt + 2 ^ 63 := by
  have hmin := leeway.le_toInt
  obtain ⟨c, hget, hc⟩ := separator_of_not_runsOn hL hruns hneg
  rw [drop_of_getElem? hget, wordRun_cons_of_separator hc]
  omega

end

/--
**The leeway bounds what is kept, unless a word runs on.**  The hard cut, and a soft cut
that does not meet a word with a negative leeway, keeps at most the length and the leeway,
takes a negative leeway for zero, and does not underflow.  A word that runs on with a
negative leeway is kept to its end, which is more than without a leeway, and the leeway
underflows on the way if the word is longer than what is left below it.
-/
theorem leeway_bounds_overrun (length leeway : Int64) (splitWords : Bool)
    (ending cs : List Char) (L : Nat)
    (hlength : (L : Int) = max length.toInt 0) :
    (splitWords = true ∨ ¬RunsOn L leeway cs →
      truncate? length splitWords ending leeway cs =
        some (truncate length splitWords ending leeway cs) ∧
      Keeps (L + leeway.toInt.toNat) ending cs (truncate length splitWords ending leeway cs) ∧
      (leeway.toInt < 0 →
        truncate length splitWords ending leeway cs = truncate length splitWords ending 0 cs)) ∧
    (RunsOn L leeway cs → cs.length < 2 ^ 63 →
      (truncate? length false ending leeway cs = none ↔
        leeway.toInt + 2 ^ 63 < (wordRun (cs.drop L) : Int)) ∧
      1 ≤ wordRun (cs.drop L) ∧
      (L + wordRun (cs.drop L) = cs.length → truncate length false ending leeway cs = cs) ∧
      (L + wordRun (cs.drop L) < cs.length →
        truncate length false ending leeway cs = cs.take (L + wordRun (cs.drop L)) ++ ending ∧
        truncate length false ending leeway cs ≠ truncate length false ending 0 cs)) := by
  refine ⟨fun hbounded => ?_, fun hruns hshort => ?_⟩
  · obtain hL | hle := Nat.lt_or_ge L cs.length
    · cases splitWords with
      | true =>
          rw [truncate?_true, truncate_true hlength hL, truncate_true hlength hL]
          exact ⟨rfl, (keeps_hard L ending leeway cs).mono (Nat.le_add_right _ _), hard_of_neg⟩
      | false =>
          have hruns : ¬RunsOn L leeway cs := hbounded.resolve_left Bool.false_ne_true
          rw [truncate?_false hlength (wordRun_of_neg hL hruns), truncate_false hlength hL,
            truncate_false hlength hL]
          exact ⟨rfl, keeps_soft_of_not_runsOn hL hruns, soft_of_neg hL hruns⟩
    · rw [truncate?_of_length_le hlength hle, truncate_of_length_le hlength hle,
        truncate_of_length_le hlength hle]
      exact ⟨rfl, .inl rfl, fun _ => rfl⟩
  · obtain ⟨c, hget, hc⟩ := hruns.2
    have hL : L < cs.length := (List.getElem?_eq_some_iff.mp hget).1
    rw [truncate_false hlength hL, truncate_false hlength hL]
    exact ⟨truncate?_eq_none_iff hlength hruns.1, wordRun_pos_of_word hget hc,
      hruns.soft_to_end hshort, fun hend => ⟨hruns.soft_cut hshort hend, hruns.soft_ne hshort hend⟩⟩

/-- With a leeway of minus one the word at the length is kept whole, and the hard cut splits it. -/
theorem leeway_bounds_overrun_minusOne :
    truncate 2 false ['~'] (-1) ['a', 'b', 'c', 'd', ' ', 'e'] = ['a', 'b', 'c', 'd', '~'] ∧
    truncate? 2 false ['~'] (-1) ['a', 'b', 'c', 'd', ' ', 'e'] ≠ none ∧
    truncate 2 true ['~'] (-1) ['a', 'b', 'c', 'd', ' ', 'e'] =
      truncate 2 true ['~'] 0 ['a', 'b', 'c', 'd', ' ', 'e'] := by
  have hrun : wordRun (['a', 'b', 'c', 'd', ' ', 'e'].drop 2) = 2 := by decide +kernel
  have hruns : RunsOn 2 (-1) ['a', 'b', 'c', 'd', ' ', 'e'] := ⟨by decide, 'c', rfl, by decide⟩
  obtain ⟨-, hsoft⟩ :=
    leeway_bounds_overrun 2 (-1) false ['~'] ['a', 'b', 'c', 'd', ' ', 'e'] 2 (by decide)
  obtain ⟨hhard, -⟩ :=
    leeway_bounds_overrun 2 (-1) true ['~'] ['a', 'b', 'c', 'd', ' ', 'e'] 2 (by decide)
  obtain ⟨hunderflow, -, -, hcut⟩ := hsoft hruns (by decide)
  obtain ⟨-, -, hzero⟩ := hhard (.inl rfl)
  rw [hrun] at hunderflow hcut
  exact ⟨(hcut (by decide)).1, fun hnone => absurd (hunderflow.mp hnone) (by decide),
    hzero (by decide)⟩

/--
A soft cut may keep more than the length with a negative leeway, which is not what it does
without one, and the smallest leeway underflows.
-/
theorem negative_leeway_runs_on :
    ¬Keeps 3 ['~'] ['a', 'b', 'c', 'd', 'e', 'f', ' ', 'g']
      (truncate 3 false ['~'] (-1) ['a', 'b', 'c', 'd', 'e', 'f', ' ', 'g']) ∧
    truncate 3 false ['~'] (-1) ['a', 'b', 'c', 'd', 'e', 'f', ' ', 'g'] ≠
      truncate 3 false ['~'] 0 ['a', 'b', 'c', 'd', 'e', 'f', ' ', 'g'] ∧
    truncate? 3 false ['~'] Int64.minValue ['a', 'b', 'c', 'd', 'e', 'f', ' ', 'g'] = none := by
  have hvalue : truncate 3 false ['~'] (-1) ['a', 'b', 'c', 'd', 'e', 'f', ' ', 'g'] =
      ['a', 'b', 'c', 'd', 'e', 'f', '~'] := by decide +kernel
  have hzero : truncate 3 false ['~'] 0 ['a', 'b', 'c', 'd', 'e', 'f', ' ', 'g'] = ['~'] := by
    decide +kernel
  refine ⟨?_, by rw [hvalue, hzero]; decide, ?_⟩
  · rw [hvalue]
    rintro (hwhole | ⟨kept, -, hkept, htext⟩)
    · exact absurd hwhole (by decide)
    · have hlength := congrArg List.length htext
      rw [List.length_append] at hlength
      simp only [List.length_cons, List.length_nil] at hlength
      omega
  · have hrun : wordRun (['a', 'b', 'c', 'd', 'e', 'f', ' ', 'g'].drop 3) = 3 := by decide +kernel
    refine (truncate?_eq_none_iff (L := 3) (by decide) (by decide)).mpr ?_
    rw [hrun]
    decide

end TemplateExpr.Truncate
