/-
The walk to a soft cut, index by index.

`soft` cuts with `take` and `drop`, which cannot go out of bounds, and counts its leeway on
words, which wrap.  The walk here reads one character at a time and takes one from a signed
word at a time, and both may fail: it has no answer where an index is out of bounds or
where the leeway falls below the smallest word.  It reads no index out of bounds, so it
answers what `truncate` does unless the leeway is negative and the word longer than the
way from the leeway down to the smallest word.
-/
import TemplateExpr.Integer
import TemplateExpr.Text.Truncate
import Mathlib.Algebra.Group.Int.Defs
import Mathlib.Data.List.DropRight

namespace TemplateExpr.Truncate

open Unicode (isWhitespace isAlphanumeric)

variable {L pos : Nat} {length leeway : Int64} {c : Char} {cs rest ending : List Char}

/-! ### The walk

Every step that could fail is an option here: an index, and taking one from a word.  The
walk is otherwise what a loop over indices would do, forward while the leeway lasts and
back to where the last word began.
-/

/-- The word one below, if it is in range. -/
def pred? (a : Int64) : Option Int64 := Integer.ofInt? (a.toInt - 1)

/-- Goes on inside a word while the leeway counts down to zero. -/
def runOn? (cs : List Char) (leeway : Int64) (pos : Nat) : Option Nat :=
  if leeway ≠ 0 ∧ pos < cs.length then do
    let c ← cs[pos]?
    if isAlphanumeric c then runOn? cs (← pred? leeway) (pos + 1) else some pos
  else some pos
termination_by cs.length - pos

/-- Goes back to a character that belongs to no word, or to the start. -/
def backTo? (cs : List Char) : Nat → Option Nat
  | 0 => some 0
  | pos + 1 => do
    let c ← cs[pos + 1]?
    if isAlphanumeric c then backTo? cs pos else some (pos + 1)

/-- Where a walk that came to `pos` cuts. -/
def cutAt? (cs : List Char) (pos : Nat) : Option Nat := do
  let c ← cs[pos]?
  if isAlphanumeric c then backTo? cs pos else some pos

/-- The soft cut of a text that is longer than `L`. -/
def walk? (L : Nat) (ending : List Char) (leeway : Int64) (cs : List Char) :
    Option (List Char) := do
  let pos ← runOn? cs leeway L
  if leeway ≠ 0 ∧ pos = cs.length then some cs
  else do
    let cut ← cutAt? cs pos
    some (Trim.dropEndWhile isWhitespace (cs.take cut) ++ ending)

/-- `truncate` with the checked walk; the hard cut takes nothing from a number. -/
def truncate? (length : Int64) (splitWords : Bool) (ending : List Char) (leeway : Int64)
    (cs : List Char) : Option (List Char) :=
  if cs.length ≤ length.toNatClampNeg then some cs
  else if splitWords then some (hard length.toNatClampNeg ending leeway cs)
  else walk? length.toNatClampNeg ending leeway cs

/-! ### How far a word runs on

The leeway is a signed word that is counted down and compared with zero only.  A negative
one passes through every other word first, so it reaches as far as the same word read
without a sign.
-/

/-- The number of word characters at the start of `cs`. -/
def wordRun (cs : List Char) : Nat := (cs.takeWhile isAlphanumeric).length

@[simp] theorem wordRun_nil : wordRun [] = 0 := rfl

theorem wordRun_cons_of_word (hc : isAlphanumeric c = true) (rest : List Char) :
    wordRun (c :: rest) = wordRun rest + 1 := by
  rw [wordRun, List.takeWhile_cons_of_pos hc, List.length_cons, wordRun]

theorem wordRun_cons_of_separator (hc : isAlphanumeric c = false) (rest : List Char) :
    wordRun (c :: rest) = 0 := by
  rw [wordRun, List.takeWhile_cons_of_neg (ne_true_of_eq_false hc), List.length_nil]

theorem wordRun_le_length (cs : List Char) : wordRun cs ≤ cs.length :=
  (List.takeWhile_prefix _).length_le

@[simp] theorem overrun_zero (cs : List Char) : overrun 0 cs = 0 := by
  cases cs with
  | nil => rfl
  | cons c cs => rfl

theorem overrun_cons_of_separator (hc : isAlphanumeric c = false) (leeway : Int64)
    (rest : List Char) : overrun leeway (c :: rest) = 0 := by
  rw [overrun, hc, Bool.and_false]
  rfl

theorem overrun_cons_of_word (hleeway : leeway ≠ 0) (hc : isAlphanumeric c = true)
    (rest : List Char) : overrun leeway (c :: rest) = overrun (leeway - 1) rest + 1 := by
  rw [overrun, hc, Bool.and_true, if_pos (bne_iff_ne.mpr hleeway)]

/-- A word read without its sign. -/
theorem toNat_toUInt64 (a : Int64) :
    (a.toUInt64.toNat : Int) = if a.toInt < 0 then a.toInt + 2 ^ 64 else a.toInt := by
  have hsigned : a.toInt = a.toBitVec.toInt := rfl
  have hunsigned : a.toUInt64.toNat = a.toBitVec.toNat := rfl
  have hlt := a.toBitVec.isLt
  rw [hsigned, hunsigned, BitVec.toInt_eq_toNat_cond]
  split <;> split <;> omega

theorem toNat_toUInt64_of_eq {n : Nat} (hn : leeway.toInt = n) : leeway.toUInt64.toNat = n := by
  have hread := toNat_toUInt64 leeway
  rw [if_neg (by omega)] at hread
  omega

theorem toNat_toUInt64_sub_one (hleeway : leeway ≠ 0) :
    (leeway - 1).toUInt64.toNat + 1 = leeway.toUInt64.toNat := by
  have hpos : 1 ≤ leeway.toUInt64.toNat := by
    refine Nat.pos_of_ne_zero fun hzero => hleeway (Int64.toInt_inj.mp ?_)
    have hread := toNat_toUInt64 leeway
    have hmin := leeway.le_toInt
    rw [hzero] at hread
    rw [Int64.toInt_zero]
    split at hread <;> omega
  have hle : (1 : Int64).toUInt64 ≤ leeway.toUInt64 := UInt64.le_iff_toNat_le.mpr hpos
  rw [Int64.toUInt64_sub, UInt64.toNat_sub_of_le _ _ hle]
  exact Nat.sub_add_cancel hpos

/--
The leeway counts down around the whole circle of words, so it stops the run after as many
characters as it counts when it is read without its sign.
-/
theorem overrun_eq_min (leeway : Int64) (cs : List Char) :
    overrun leeway cs = min leeway.toUInt64.toNat (wordRun cs) := by
  induction cs generalizing leeway with
  | nil => rw [overrun, wordRun_nil, Nat.min_zero]
  | cons c cs ih =>
      by_cases hleeway : leeway = 0
      · subst hleeway
        rw [overrun_zero]
        exact (Nat.zero_min _).symm
      · cases hc : isAlphanumeric c with
        | false => rw [overrun_cons_of_separator hc, wordRun_cons_of_separator hc, Nat.min_zero]
        | true =>
            rw [overrun_cons_of_word hleeway hc, wordRun_cons_of_word hc, ih,
              ← toNat_toUInt64_sub_one hleeway, Nat.add_min_add_right]

theorem overrun_le_length (leeway : Int64) (cs : List Char) : overrun leeway cs ≤ cs.length := by
  rw [overrun_eq_min]
  exact Nat.le_trans (Nat.min_le_right _ _) (wordRun_le_length cs)

/-! ### The walk forward

As long as the leeway has not run out, one step leaves both sides, the walk on the text
and `overrun` on what remains of it, with one character and one unit of leeway less.
The induction is on what remains.
-/

theorem toInt_sub_one (h : -2 ^ 63 < leeway.toInt) : (leeway - 1).toInt = leeway.toInt - 1 := by
  have hlt := leeway.toInt_lt
  rw [Int64.toInt_sub, Int64.toInt_one]
  exact Int.bmod_eq_of_le (by omega) (by omega)

theorem pred?_eq_some (h : -2 ^ 63 < leeway.toInt) : pred? leeway = some (leeway - 1) := by
  have hlt := leeway.toInt_lt
  have hpow : ((Nat.pow 2 63 : Nat) : Int) = 2 ^ 63 := rfl
  rw [pred?, Integer.ofInt?, hpow, if_pos ⟨by omega, by omega⟩, ← toInt_sub_one h,
    Int64.ofInt_toInt]

theorem pred?_eq_none (h : leeway.toInt = -2 ^ 63) : pred? leeway = none := by
  have hpow : ((Nat.pow 2 63 : Nat) : Int) = 2 ^ 63 := rfl
  rw [pred?, Integer.ofInt?, hpow, if_neg fun hrange => absurd hrange.1 (by omega)]

theorem drop_of_getElem? (hget : cs[pos]? = some c) : cs.drop pos = c :: cs.drop (pos + 1) := by
  rw [List.drop_eq_getElem?_toList_append, hget, Option.toList_some, List.singleton_append]

theorem getElem?_of_drop (hrest : cs.drop pos = c :: rest) :
    pos < cs.length ∧ cs[pos]? = some c ∧ cs.drop (pos + 1) = rest := by
  have hlt : pos < cs.length := by
    refine Nat.lt_of_not_le fun hle => ?_
    rw [List.drop_eq_nil_of_le hle] at hrest
    cases hrest
  rw [List.drop_eq_getElem_cons hlt] at hrest
  obtain ⟨rfl, htail⟩ := List.cons.inj hrest
  exact ⟨hlt, List.getElem?_eq_getElem hlt, htail⟩

theorem runOn?_of_nil (hrest : cs.drop pos = []) : runOn? cs leeway pos = some pos := by
  rw [runOn?, if_neg fun h => absurd (List.drop_eq_nil_iff.mp hrest) (Nat.not_le.mpr h.2)]

theorem runOn?_of_separator (hrest : cs.drop pos = c :: rest) (hc : isAlphanumeric c = false) :
    runOn? cs leeway pos = some pos := by
  obtain ⟨-, hget, -⟩ := getElem?_of_drop hrest
  rw [runOn?, hget, Option.bind_eq_bind, Option.bind_some, hc]
  exact ite_self _

theorem runOn?_of_zero : runOn? cs 0 pos = some pos := by
  rw [runOn?, if_neg fun h => h.1 rfl]

theorem runOn?_of_word (hleeway : leeway ≠ 0) (hrest : cs.drop pos = c :: rest)
    (hc : isAlphanumeric c = true) :
    runOn? cs leeway pos = (pred? leeway).bind fun leeway => runOn? cs leeway (pos + 1) := by
  obtain ⟨hlt, hget, -⟩ := getElem?_of_drop hrest
  rw [runOn?, if_pos ⟨hleeway, hlt⟩, hget, Option.bind_eq_bind, Option.bind_some, if_pos hc]
  rfl

/-- Without an underflow the walk reads nothing out of bounds and runs on as `overrun` counts. -/
theorem runOn?_eq_some (hrest : cs.drop pos = rest)
    (h : leeway.toInt < 0 → (wordRun rest : Int) ≤ leeway.toInt + 2 ^ 63) :
    runOn? cs leeway pos = some (pos + overrun leeway rest) := by
  induction rest generalizing pos leeway with
  | nil => rw [runOn?_of_nil hrest, overrun, Nat.add_zero]
  | cons c rest ih =>
      cases hc : isAlphanumeric c with
      | false => rw [runOn?_of_separator hrest hc, overrun_cons_of_separator hc, Nat.add_zero]
      | true =>
          by_cases hleeway : leeway = 0
          · subst hleeway
            rw [runOn?_of_zero, overrun_zero, Nat.add_zero]
          · rw [wordRun_cons_of_word hc] at h
            have hmin : -2 ^ 63 < leeway.toInt := by omega
            have hne : leeway.toInt ≠ 0 := fun hzero => hleeway (Int64.toInt_inj.mp hzero)
            obtain ⟨-, -, htail⟩ := getElem?_of_drop hrest
            rw [runOn?_of_word hleeway hrest hc, pred?_eq_some hmin, Option.bind_some,
              ih htail (by rw [toInt_sub_one hmin]; omega), overrun_cons_of_word hleeway hc]
            congr 1
            omega

/-- A word that is too long for a negative leeway takes it below the smallest word. -/
theorem runOn?_eq_none (hrest : cs.drop pos = rest) (hneg : leeway.toInt < 0)
    (h : leeway.toInt + 2 ^ 63 < (wordRun rest : Int)) : runOn? cs leeway pos = none := by
  have hmin := leeway.le_toInt
  induction rest generalizing pos leeway with
  | nil =>
      rw [wordRun_nil] at h
      omega
  | cons c rest ih =>
      cases hc : isAlphanumeric c with
      | false =>
          rw [wordRun_cons_of_separator hc] at h
          omega
      | true =>
          rw [wordRun_cons_of_word hc] at h
          have hne : leeway ≠ 0 := by
            rintro rfl
            exact absurd hneg (by decide)
          rw [runOn?_of_word hne hrest hc]
          by_cases hlast : leeway.toInt = -2 ^ 63
          · rw [pred?_eq_none hlast, Option.bind_none]
          · have hpred : (leeway - 1).toInt = leeway.toInt - 1 := toInt_sub_one (by omega)
            obtain ⟨-, -, htail⟩ := getElem?_of_drop hrest
            rw [pred?_eq_some (by omega), Option.bind_some,
              ih htail (by omega) (by omega) (leeway - 1).le_toInt]

/-! ### The walk back -/

theorem backOff_append_of_word (hc : isAlphanumeric c = true) (cs : List Char) :
    backOff (cs ++ [c]) = backOff cs := by
  show (List.rdropWhile isAlphanumeric (cs ++ [c])).dropLast = _
  rw [List.rdropWhile_concat_pos _ _ _ hc]
  rfl

theorem backOff_append_of_separator (hc : isAlphanumeric c = false) (cs : List Char) :
    backOff (cs ++ [c]) = cs := by
  show (List.rdropWhile isAlphanumeric (cs ++ [c])).dropLast = _
  rw [List.rdropWhile_concat_neg _ _ _ (ne_true_of_eq_false hc), List.dropLast_concat]

theorem backOff_isPrefix (cs : List Char) : backOff cs <+: cs :=
  (List.dropLast_prefix _).trans (List.rdropWhile_prefix _ _)

/-- Inside a word the walk back reads nothing out of bounds and stops where `backOff` cuts. -/
theorem backTo?_eq_some (hget : cs[pos]? = some c) (hc : isAlphanumeric c = true) :
    backTo? cs pos = some (backOff (cs.take pos)).length := by
  induction pos generalizing c with
  | zero => rfl
  | succ pos ih =>
      have hlt : pos < cs.length := Nat.lt_of_succ_lt (List.getElem?_eq_some_iff.mp hget).1
      have hprev : cs[pos]? = some cs[pos] := List.getElem?_eq_getElem hlt
      rw [backTo?, hget, Option.bind_eq_bind, Option.bind_some, if_pos hc, List.take_add_one, hprev,
        Option.toList_some]
      cases hd : isAlphanumeric cs[pos] with
      | true => rw [ih hprev hd, backOff_append_of_word hd]
      | false =>
          rw [backOff_append_of_separator hd, List.length_take_of_le (Nat.le_of_lt hlt)]
          cases pos with
          | zero => rfl
          | succ pos =>
              rw [backTo?, hprev, Option.bind_eq_bind, Option.bind_some, hd]
              rfl

/-! ### The whole walk

Where the walk forward ends decides the cut: at the end of the text, at a separator, or
inside a word that was too long, and in this last case the walk back begins.
-/

section

variable (hpos : L + overrun leeway (cs.drop L) = pos)

include hpos

theorem soft_of_end (hend : cs.drop pos = []) : soft L ending leeway cs = cs := by
  rw [soft, hpos, hend]

theorem soft_of_separator (hget : cs[pos]? = some c) (hc : isAlphanumeric c = false) :
    soft L ending leeway cs = Trim.dropEndWhile isWhitespace (cs.take pos) ++ ending := by
  rw [soft, hpos, drop_of_getElem? hget]
  simp only [hc, Bool.false_eq_true, if_false]

theorem soft_of_word (hget : cs[pos]? = some c) (hc : isAlphanumeric c = true) :
    soft L ending leeway cs = Trim.dropEndWhile isWhitespace (backOff (cs.take pos)) ++ ending := by
  rw [soft, hpos, drop_of_getElem? hget]
  simp only [hc, if_true]

end

/-- Without an underflow the walk is the soft cut. -/
theorem walk?_eq_some (hL : L < cs.length)
    (h : leeway.toInt < 0 → (wordRun (cs.drop L) : Int) ≤ leeway.toInt + 2 ^ 63) :
    walk? L ending leeway cs = some (soft L ending leeway cs) := by
  obtain ⟨pos, hpos⟩ : ∃ pos, L + overrun leeway (cs.drop L) = pos := ⟨_, rfl⟩
  rw [walk?, runOn?_eq_some rfl h, hpos, Option.bind_eq_bind, Option.bind_some]
  cases hrest : cs.drop pos with
  | nil =>
      have hrun := overrun_le_length leeway (cs.drop L)
      have hend := List.drop_eq_nil_iff.mp hrest
      have hleeway : leeway ≠ 0 := by
        rintro rfl
        rw [overrun_zero] at hpos
        omega
      rw [List.length_drop] at hrun
      rw [soft_of_end hpos hrest, if_pos ⟨hleeway, by omega⟩]
  | cons c rest =>
      obtain ⟨hlt, hget, -⟩ := getElem?_of_drop hrest
      rw [if_neg fun hend => absurd hend.2 (Nat.ne_of_lt hlt), cutAt?, hget, Option.bind_eq_bind,
        Option.bind_some]
      cases hc : isAlphanumeric c with
      | false =>
          rw [soft_of_separator hpos hget hc]
          rfl
      | true =>
          have hkept := List.prefix_iff_eq_take.mp
            ((backOff_isPrefix (cs.take pos)).trans (List.take_prefix pos cs))
          rw [soft_of_word hpos hget hc, if_pos rfl, backTo?_eq_some hget hc, Option.bind_some,
            ← hkept]

/-- With an underflow there is no cut. -/
theorem walk?_eq_none (hneg : leeway.toInt < 0)
    (h : leeway.toInt + 2 ^ 63 < (wordRun (cs.drop L) : Int)) :
    walk? L ending leeway cs = none := by
  rw [walk?, runOn?_eq_none rfl hneg h]
  rfl

/-! ### Texts that are cut -/

/-- The hard cut has nothing to check. -/
theorem truncate?_true :
    truncate? length true ending leeway cs = some (truncate length true ending leeway cs) := by
  rw [truncate?, truncate, if_pos rfl, if_pos rfl, apply_ite some]

section

variable (hlength : (L : Int) = max length.toInt 0)

include hlength

theorem toNatClampNeg_eq : length.toNatClampNeg = L := by
  show length.toInt.toNat = L
  omega

theorem truncate_of_length_le {splitWords : Bool} (hL : cs.length ≤ L) :
    truncate length splitWords ending leeway cs = cs := by
  rw [truncate, toNatClampNeg_eq hlength, if_pos hL]

theorem truncate?_of_length_le {splitWords : Bool} (hL : cs.length ≤ L) :
    truncate? length splitWords ending leeway cs = some cs := by
  rw [truncate?, toNatClampNeg_eq hlength, if_pos hL]

theorem truncate_true (hL : L < cs.length) :
    truncate length true ending leeway cs = hard L ending leeway cs := by
  rw [truncate, toNatClampNeg_eq hlength, if_neg (Nat.not_le.mpr hL), if_pos rfl]

theorem truncate_false (hL : L < cs.length) :
    truncate length false ending leeway cs = soft L ending leeway cs := by
  rw [truncate, toNatClampNeg_eq hlength, if_neg (Nat.not_le.mpr hL), if_neg Bool.false_ne_true]

/-- Nothing goes out of bounds or underflows unless a word is too long for a negative leeway. -/
theorem truncate?_false
    (h : leeway.toInt < 0 → (wordRun (cs.drop L) : Int) ≤ leeway.toInt + 2 ^ 63) :
    truncate? length false ending leeway cs = some (truncate length false ending leeway cs) := by
  obtain hL | hle := Nat.lt_or_ge L cs.length
  · rw [truncate_false hlength hL, truncate?, toNatClampNeg_eq hlength, if_neg (Nat.not_le.mpr hL),
      if_neg Bool.false_ne_true, walk?_eq_some hL h]
  · rw [truncate_of_length_le hlength hle, truncate?_of_length_le hlength hle]

end

end TemplateExpr.Truncate
