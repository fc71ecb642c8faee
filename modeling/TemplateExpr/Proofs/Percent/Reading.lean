/-
Reading percent-encoded text.

An encoded text is a row of marks: characters that stand for themselves, with a plus sign
for the space, and escaped bytes.  The reader goes from left to right and never has to look
back, because nothing that stands for itself is a plus or a percent sign, and because an
escape always has two digits.  So the marks can be told from the text, whatever was encoded.
What is encoded in a narrow text are its bytes, and a byte is one mark; with its marks a
narrow text is read back whole.

`Mark` is what makes this work.  A reader of characters would have to be compared with a
writer of bytes; both are compared with a row of marks, and each of the two comparisons
goes mark by mark.
-/
import Mathlib.Data.List.Basic
import TemplateExpr.Text.Percent

namespace TemplateExpr.Percent

/-- What an encoded text is made of. -/
inductive Mark where
  /-- A character that stands for itself; the space is written as a plus sign. -/
  | plain (c : Char)
  | escaped (b : UInt8)
  deriving DecidableEq

namespace Mark

/-- The byte a mark stands for. -/
def byte : Mark → UInt8
  | plain c => UInt8.ofNat c.toNat
  | escaped b => b

/-- A mark as it is written. -/
def written : Mark → List Char
  | plain c => if c = ' ' then ['+'] else [c]
  | escaped b => escapeByte b.toNat

/-- Only an ASCII character that is not reserved can stand for itself. -/
def Proper : Mark → Prop
  | plain c => c.toNat ≤ 0x7f ∧ c ∉ reserved
  | escaped _ => True

end Mark

/-- The marks of one byte or code point. -/
def spelled (n : Nat) : List Mark :=
  if n ≤ 0x7f ∧ Char.ofNat n ∉ reserved then [.plain (Char.ofNat n)]
  else (significantBytes n).map fun b => .escaped (UInt8.ofNat b)

/-- The value of an upper-case hexadecimal digit; nothing else has one. -/
def digitValue? (c : Char) : Option Nat :=
  if '0' ≤ c ∧ c ≤ '9' then some (c.toNat - 0x30)
  else if 'A' ≤ c ∧ c ≤ 'F' then some (c.toNat - 0x41 + 10)
  else none

/--
Reads an encoded text from left to right: `%` and two digits are the byte with these digits,
a plus sign is a space, and any other ASCII character stands for itself.
-/
def read : List Char → Option (List Mark)
  | [] => some []
  | c :: cs =>
    if c = '%' then
      match cs with
      | hi :: lo :: rest =>
        (digitValue? hi).bind fun h => (digitValue? lo).bind fun l =>
          (read rest).map (.escaped (UInt8.ofNat (16 * h + l)) :: ·)
      | _ => none
    else if c.toNat ≤ 0x7f then (read cs).map (.plain (if c = '+' then ' ' else c) :: ·)
    else none

/-- The bytes an encoded text is read as. -/
def decode (cs : List Char) : Option (List UInt8) := (read cs).map (·.map Mark.byte)

/-! ### Hexadecimal digits -/

theorem digitValue?_hexDigit {n : Nat} (h : n < 16) : digitValue? (hexDigit n) = some n := by
  decide +revert

theorem hexDigit_not_mem_reserved {n : Nat} (h : n < 16) : hexDigit n ∉ reserved := by
  decide +revert

theorem hexDigit_ascii {n : Nat} (h : n < 16) : (hexDigit n).toNat ≤ 0x7f ∧ hexDigit n ≠ ' ' := by
  decide +revert

theorem digitValue?_percent : digitValue? '%' = none := by decide

/-! ### Marks are read as they were written

The first character of a mark says which kind of mark it is, and an escape has a fixed
length.  So the reader consumes one mark and is at the start of the next: one equation
for each kind of mark, and an induction over the row.
-/

variable {cs : List Char} {ms : List Mark} {m : Mark}

theorem read_percent (hi lo : Char) (cs : List Char) :
    read ('%' :: hi :: lo :: cs) =
      (digitValue? hi).bind fun h => (digitValue? lo).bind fun l =>
        (read cs).map (.escaped (UInt8.ofNat (16 * h + l)) :: ·) := by
  rw [read, if_pos rfl]

theorem read_plain {c : Char} (hpercent : c ≠ '%') (hascii : c.toNat ≤ 0x7f) (cs : List Char) :
    read (c :: cs) = (read cs).map (.plain (if c = '+' then ' ' else c) :: ·) := by
  rw [read.eq_def]
  dsimp only
  rw [if_neg hpercent, if_pos hascii]

theorem read_written (hm : m.Proper) (cs : List Char) :
    read (m.written ++ cs) = (read cs).map (m :: ·) := by
  cases m with
  | escaped b =>
      have hb : b.toNat < 256 := b.toNat_lt
      have hvalue : 16 * (b.toNat / 16) + b.toNat % 16 = b.toNat := by omega
      show read ('%' :: hexDigit (b.toNat / 16) :: hexDigit (b.toNat % 16) :: cs) = _
      rw [read_percent, digitValue?_hexDigit (by omega), digitValue?_hexDigit (by omega),
        Option.bind_some, Option.bind_some, hvalue, UInt8.ofNat_toNat]
  | plain c =>
      obtain ⟨hascii, hreserved⟩ := hm
      have hpercent : c ≠ '%' := fun h => hreserved (by rw [h]; decide)
      have hplus : c ≠ '+' := fun h => hreserved (by rw [h]; decide)
      by_cases hspace : c = ' '
      · subst hspace
        exact read_plain (by decide) (by decide) cs
      · unfold Mark.written
        dsimp only
        rw [if_neg hspace, List.cons_append, List.nil_append, read_plain hpercent hascii,
          if_neg hplus]

/-- A row of marks is read as it was written. -/
theorem read_flatMap_written (h : ∀ m ∈ ms, m.Proper) :
    read (ms.flatMap Mark.written) = some ms := by
  induction ms with
  | nil => rfl
  | cons m ms ih =>
      rw [List.flatMap_cons, read_written (h m List.mem_cons_self),
        ih fun m hm => h m (List.mem_cons_of_mem _ hm)]
      rfl

/-! ### What is encoded is a row of marks -/

theorem toNat_ofNat_ascii {n : Nat} (h : n ≤ 0x7f) : (Char.ofNat n).toNat = n := by
  have hvalid : n.isValidChar := Or.inl (by omega)
  rw [Char.ofNat, dif_pos hvalid]
  rfl

theorem lt_of_mem_significantBytes {n b : Nat} (h : b ∈ significantBytes n) : b < 256 := by
  unfold significantBytes at h
  rcases List.mem_append.mp h with h | h
  · have hmem := (List.dropWhile_suffix (· == 0)).subset h
    simp only [List.mem_cons, List.not_mem_nil, or_false] at hmem
    rcases hmem with rfl | rfl | rfl <;> exact Nat.mod_lt _ (by decide)
  · rw [List.mem_singleton.mp h]
    exact Nat.mod_lt _ (by decide)

theorem significantBytes_of_lt {n : Nat} (h : n < 256) : significantBytes n = [n] := by
  have hzero : ∀ k, 8 ≤ k → n / Nat.pow 2 k % 256 = 0 := by
    intro k hk
    have hpow : 2 ^ 8 ≤ 2 ^ k := Nat.pow_le_pow_right (by decide) hk
    show n / 2 ^ k % 256 = 0
    rw [Nat.div_eq_of_lt (Nat.lt_of_lt_of_le h hpow)]
  unfold significantBytes
  rw [hzero 24 (by decide), hzero 16 (by decide), hzero 8 (by decide), Nat.mod_eq_of_lt h]
  rfl

/-- The marks of a code point stand for its significant bytes. -/
theorem toNat_spelled (n : Nat) :
    (spelled n).map (UInt8.toNat ∘ Mark.byte) = significantBytes n := by
  unfold spelled
  split
  · rename_i hn
    have hlt : n < 256 := by omega
    rw [significantBytes_of_lt hlt, List.map_singleton, Function.comp_apply, Mark.byte,
      toNat_ofNat_ascii hn.1, UInt8.toNat_ofNat_of_lt' hlt]
  · rw [List.map_map]
    refine (List.map_congr_left fun b hb => ?_).trans (List.map_id _)
    exact UInt8.toNat_ofNat_of_lt' (lt_of_mem_significantBytes hb)

theorem proper_of_mem_spelled {n : Nat} (h : m ∈ spelled n) : m.Proper := by
  unfold spelled at h
  split at h
  · rename_i hn
    obtain ⟨hascii, hreserved⟩ := hn
    rw [List.mem_singleton.mp h]
    exact ⟨by rwa [toNat_ofNat_ascii hascii], hreserved⟩
  · obtain ⟨b, -, rfl⟩ := List.mem_map.mp h
    trivial

theorem encodeUnit_eq (n : Nat) : encodeUnit n = (spelled n).flatMap Mark.written := by
  unfold encodeUnit spelled
  by_cases hspace : n = 0x20
  · subst hspace
    rfl
  rw [if_neg hspace]
  split
  · rename_i hn
    have hne : Char.ofNat n ≠ ' ' := by
      intro h
      have hnat := congrArg Char.toNat h
      rw [toNat_ofNat_ascii hn.1] at hnat
      exact hspace hnat
    simp only [List.flatMap_cons, List.flatMap_nil, Mark.written, if_neg hne, List.append_nil]
  · rw [List.flatMap_map]
    refine List.flatMap_congr fun b hb => ?_
    show escapeByte b = escapeByte (UInt8.ofNat b).toNat
    rw [UInt8.toNat_ofNat_of_lt' (lt_of_mem_significantBytes hb)]

theorem flatMap_encodeUnit (ns : List Nat) :
    ns.flatMap encodeUnit = (ns.flatMap spelled).flatMap Mark.written := by
  rw [List.flatMap_assoc]
  exact List.flatMap_congr fun n _ => encodeUnit_eq n

/-- **An encoded text is read as the marks it was spelled with.** -/
theorem read_flatMap_encodeUnit (ns : List Nat) :
    read (ns.flatMap encodeUnit) = some (ns.flatMap spelled) := by
  rw [flatMap_encodeUnit]
  refine read_flatMap_written fun m hm => ?_
  obtain ⟨n, -, hm⟩ := List.mem_flatMap.mp hm
  exact proper_of_mem_spelled hm

/-! ### What cannot stand in an encoded text

That escapes have upper-case digits and that nothing reserved is left over are
statements about every character of the text.  They are read off the marks, which is
where a character of the text comes from; only the digits of an escape are looked for by
position.
-/

/-- The reader goes on behind an escape with two digits or behind any other character. -/
theorem read_eq_some {c : Char} (h : read (c :: cs) = some ms) :
    (c = '%' ∧ ∃ hi lo rest, cs = hi :: lo :: rest ∧ (digitValue? hi).isSome = true ∧
      (digitValue? lo).isSome = true ∧ ∃ ms', read rest = some ms') ∨
    (c ≠ '%' ∧ ∃ ms', read cs = some ms') := by
  by_cases hpercent : c = '%'
  · subst hpercent
    refine Or.inl ⟨rfl, ?_⟩
    match cs with
    | [] => exact absurd h nofun
    | [_] => exact absurd h nofun
    | hi :: lo :: rest =>
        rw [read_percent] at h
        obtain ⟨n, hn, h⟩ := Option.bind_eq_some_iff.mp h
        obtain ⟨k, hk, h⟩ := Option.bind_eq_some_iff.mp h
        obtain ⟨ms', hrest, -⟩ := Option.map_eq_some_iff.mp h
        exact ⟨hi, lo, rest, rfl, Option.isSome_of_mem hn, Option.isSome_of_mem hk, ms', hrest⟩
  · refine Or.inr ⟨hpercent, ?_⟩
    by_cases hascii : c.toNat ≤ 0x7f
    · rw [read_plain hpercent hascii] at h
      obtain ⟨ms', hrest, -⟩ := Option.map_eq_some_iff.mp h
      exact ⟨ms', hrest⟩
    · rw [read.eq_def] at h
      dsimp only at h
      rw [if_neg hpercent, if_neg hascii] at h
      exact absurd h nofun

/-- Wherever a percent sign stands in what is read, two digits follow it. -/
theorem digits_of_read {before after : List Char} (h : read (before ++ '%' :: after) = some ms) :
    ∃ hi lo rest, after = hi :: lo :: rest ∧ (digitValue? hi).isSome = true ∧
      (digitValue? lo).isSome = true := by
  induction hn : before.length using Nat.strongRecOn generalizing before ms with
  | ind n ih =>
      cases before with
      | nil =>
          obtain ⟨-, hi, lo, rest, hafter, hhi, hlo, -⟩ | ⟨hne, -⟩ := read_eq_some h
          · exact ⟨hi, lo, rest, hafter, hhi, hlo⟩
          · exact absurd rfl hne
      | cons c before =>
          rw [List.length_cons] at hn
          obtain ⟨-, hi, lo, rest, hcs, hhi, hlo, ms', hrest⟩ | ⟨-, ms', hrest⟩ := read_eq_some h
          · -- A percent sign is no digit, so it stands behind both digits of this escape.
            match before with
            | [] =>
                obtain ⟨rfl, -⟩ := List.cons.inj hcs
                exact absurd hhi (by rw [digitValue?_percent]; nofun)
            | [x] =>
                obtain ⟨-, hcs⟩ := List.cons.inj hcs
                obtain ⟨rfl, -⟩ := List.cons.inj hcs
                exact absurd hlo (by rw [digitValue?_percent]; nofun)
            | x :: y :: before =>
                obtain ⟨-, hcs⟩ := List.cons.inj hcs
                obtain ⟨-, rfl⟩ := List.cons.inj hcs
                exact ih before.length (by simp only [List.length_cons] at hn; omega) hrest rfl
          · exact ih before.length (by omega) hrest rfl

theorem mem_written (hm : m.Proper) {c : Char} (hc : c ∈ m.written) :
    c.toNat ≤ 0x7f ∧ c ≠ ' ' ∧ (c ∈ reserved → c = '%' ∨ c = '+') := by
  cases m with
  | escaped b =>
      have hb : b.toNat < 256 := b.toNat_lt
      have hdigit : ∀ n < 16, (hexDigit n).toNat ≤ 0x7f ∧ hexDigit n ≠ ' ' ∧
          (hexDigit n ∈ reserved → hexDigit n = '%' ∨ hexDigit n = '+') := fun n hn =>
        ⟨(hexDigit_ascii hn).1, (hexDigit_ascii hn).2,
          fun h => absurd h (hexDigit_not_mem_reserved hn)⟩
      simp only [Mark.written, escapeByte, List.mem_cons, List.not_mem_nil, or_false] at hc
      rcases hc with rfl | rfl | rfl
      · decide
      · exact hdigit _ (by omega)
      · exact hdigit _ (by omega)
  | plain c' =>
      obtain ⟨hascii, hreserved⟩ := hm
      unfold Mark.written at hc
      dsimp only at hc
      split at hc
      · rw [List.mem_singleton.mp hc]
        decide
      · rename_i hspace
        obtain rfl := List.mem_singleton.mp hc
        exact ⟨hascii, hspace, fun h => absurd h hreserved⟩

theorem mem_flatMap_encodeUnit {ns : List Nat} {c : Char} (hc : c ∈ ns.flatMap encodeUnit) :
    c.toNat ≤ 0x7f ∧ c ≠ ' ' ∧ (c ∈ reserved → c = '%' ∨ c = '+') := by
  rw [flatMap_encodeUnit] at hc
  obtain ⟨m, hm, hc⟩ := List.mem_flatMap.mp hc
  obtain ⟨n, -, hm⟩ := List.mem_flatMap.mp hm
  exact mem_written (proper_of_mem_spelled hm) hc

/-! ### Narrow texts

The code units of a narrow text are bytes, and one byte is one mark.  So the marks of an
encoded narrow text are its bytes, and the bytes are the text.
-/

/-- Bytes in their encoded form. -/
def encodeBytes (bs : List UInt8) : List Char := bs.flatMap fun b => encodeUnit b.toNat

theorem encodeBytes_eq (bs : List UInt8) :
    encodeBytes bs = (bs.map UInt8.toNat).flatMap encodeUnit := by
  rw [List.flatMap_map]
  rfl

/-- A byte is one mark. -/
theorem byte_spelled (b : UInt8) : (spelled b.toNat).map Mark.byte = [b] := by
  have hbytes : ((spelled b.toNat).map Mark.byte).map UInt8.toNat = [b].map UInt8.toNat := by
    rw [List.map_map, List.map_singleton, ← significantBytes_of_lt b.toNat_lt]
    exact toNat_spelled b.toNat
  exact List.map_injective_iff.mpr (fun _ _ => UInt8.toNat_inj.mp) hbytes

theorem decode_encodeBytes (bs : List UInt8) : decode (encodeBytes bs) = some bs := by
  unfold decode
  rw [encodeBytes_eq, read_flatMap_encodeUnit, Option.map_some, List.flatMap_map, List.map_flatMap]
  simp only [byte_spelled, List.flatMap_singleton']

theorem chars_encode_narrow (s : String) :
    (encode (.narrow s)).chars = encodeBytes s.toUTF8.data.toList := by
  have hbytes : s.toList.flatMap String.utf8EncodeChar = s.toUTF8.data.toList := by
    have h : s.toList.utf8Encode = s.toUTF8 := String.utf8Encode_toList
    rw [← h, List.utf8Encode, List.data_toByteArray]
  unfold encode encodeBytes Text.chars
  dsimp only
  rw [hbytes, String.toList_ofList]

/--
**Narrow encoding can be undone.**  An encoded narrow text is read as exactly the bytes of the
text, so no two rows of bytes and no two narrow texts are encoded alike.  In what is
encoded, two digits follow every percent sign, and nothing stands that is not ASCII, a
space, or reserved but for the percent and plus signs that the reader takes for escapes and
spaces.
-/
theorem narrow_encoding_is_decodable (s : String) :
    decode (encode (.narrow s)).chars = some s.toUTF8.data.toList ∧
    (∀ bs bs' : List UInt8, encodeBytes bs = encodeBytes bs' → bs = bs') ∧
    (∀ t : String, encode (.narrow t) = encode (.narrow s) → t = s) ∧
    (∀ before after, (encode (.narrow s)).chars = before ++ '%' :: after →
      ∃ hi lo rest, after = hi :: lo :: rest ∧
        (digitValue? hi).isSome = true ∧ (digitValue? lo).isSome = true) ∧
    ∀ c ∈ (encode (.narrow s)).chars,
      c.toNat ≤ 0x7f ∧ c ≠ ' ' ∧ (c ∈ reserved → c = '%' ∨ c = '+') := by
  have hinjective : ∀ bs bs' : List UInt8, encodeBytes bs = encodeBytes bs' → bs = bs' := by
    intro bs bs' h
    have hdecode := decode_encodeBytes bs
    rw [h, decode_encodeBytes] at hdecode
    exact (Option.some.inj hdecode).symm
  have hout := chars_encode_narrow s
  refine ⟨?_, hinjective, ?_, ?_, ?_⟩
  · rw [hout, decode_encodeBytes]
  · intro t ht
    have hbytes := hinjective t.toUTF8.data.toList s.toUTF8.data.toList
      (by rw [← chars_encode_narrow, ht, chars_encode_narrow])
    exact String.toByteArray_inj.mp (ByteArray.ext (Array.toList_inj.mp hbytes))
  · intro before after hsplit
    have hread : read (before ++ '%' :: after) =
        some ((s.toUTF8.data.toList.map UInt8.toNat).flatMap spelled) := by
      rw [← hsplit, hout, encodeBytes_eq, read_flatMap_encodeUnit]
    exact digits_of_read hread
  · intro c hc
    rw [hout, encodeBytes_eq] at hc
    exact mem_flatMap_encodeUnit hc

end TemplateExpr.Percent
