/-
Wide texts that are encoded alike.

A code point above a byte is written as its significant bytes, and nothing says where one
code point ends and the next begins.  So a row of escaped bytes can be read as more than one
row of code points, and different wide texts may be encoded alike.  What an encoded text
does determine are its marks: the characters that stand for themselves, and the escaped
bytes between them.  With the number of bytes that each code point takes, the marks can be
cut into code points again, and then the text is determined.
-/
import TemplateExpr.Proofs.Percent.Reading

namespace TemplateExpr.Percent

variable {s t : List Char}

/-! ### Code points and their bytes

A code point above a byte is written without leading zeros, so the number of its bytes
is part of what it is.  Within one code point nothing is lost; what is lost is where it
ends.
-/

/-- The marks of code points in a row. -/
def marks (cs : List Char) : List Mark := cs.flatMap fun c => spelled c.toNat

/-- The number of bytes that a code point is written with. -/
def byteCount (c : Char) : Nat := (significantBytes c.toNat).length

/-- The number that bytes stand for, the most significant one first. -/
def ofBytes (bs : List Nat) : Nat := bs.foldl (fun n b => 256 * n + b) 0

/-- Leading zeros do not count. -/
theorem ofBytes_dropWhile_append (bs bs' : List Nat) :
    ofBytes (bs.dropWhile (· == 0) ++ bs') = ofBytes (bs ++ bs') := by
  induction bs with
  | nil => rfl
  | cons b bs ih =>
      by_cases hb : b = 0
      · subst hb
        exact ih
      · rw [List.dropWhile_cons_of_neg (by simpa using hb)]

theorem ofBytes_significantBytes {n : Nat} (h : n < UInt32.size) :
    ofBytes (significantBytes n) = n := by
  unfold significantBytes
  rw [ofBytes_dropWhile_append]
  show 256 * (256 * (256 * (256 * 0 + n / 0x1000000 % 256) + n / 0x10000 % 256) + n / 0x100 % 256) +
    n % 256 = n
  change n < 0x100000000 at h
  omega

theorem length_spelled (n : Nat) : (spelled n).length = (significantBytes n).length := by
  rw [← toNat_spelled, List.length_map]

/-- Different characters are spelled differently. -/
theorem spelled_injective {c d : Char} (h : spelled c.toNat = spelled d.toNat) : c = d := by
  have hlt : ∀ c : Char, c.toNat < UInt32.size := fun c => c.val.toNat_lt
  have hnat : c.toNat = d.toNat := by
    rw [← ofBytes_significantBytes (hlt c), ← toNat_spelled, h, toNat_spelled,
      ofBytes_significantBytes (hlt d)]
  exact Char.toNat_inj.mp hnat

/-! ### Cutting marks into code points -/

/-- Marks that are cut at the same places are those of the same characters. -/
theorem eq_of_marks_eq (h : marks s = marks t) (hcount : s.map byteCount = t.map byteCount) :
    s = t := by
  induction s generalizing t with
  | nil => exact (List.map_eq_nil_iff.mp hcount.symm).symm
  | cons c s ih =>
      cases t with
      | nil => exact absurd hcount (by simp)
      | cons d t =>
          obtain ⟨hhead, htail⟩ := List.cons.inj hcount
          rw [marks, marks, List.flatMap_cons, List.flatMap_cons] at h
          obtain ⟨hspelled, hrest⟩ :=
            List.append_inj h (by rw [length_spelled, length_spelled]; exact hhead)
          rw [spelled_injective hspelled, ih hrest htail]

/-- A wide text is encoded as its marks are written, and read as its marks. -/
theorem read_encode_wide (s : List Char) :
    encode (.wide s) = .wide ((marks s).flatMap Mark.written) ∧
      read (encode (.wide s)).chars = some (marks s) := by
  have hmarks : marks s = (s.map Char.toNat).flatMap spelled := by
    rw [List.flatMap_map]
    rfl
  have hencode : encode (.wide s) = .wide ((s.map Char.toNat).flatMap encodeUnit) := by
    rw [List.flatMap_map]
    rfl
  rw [hmarks, hencode, ← flatMap_encodeUnit]
  exact ⟨rfl, read_flatMap_encodeUnit _⟩

/-- Wide texts are encoded alike exactly if they have the same marks. -/
theorem encode_wide_eq_iff : encode (.wide s) = encode (.wide t) ↔ marks s = marks t := by
  obtain ⟨hs, hread⟩ := read_encode_wide s
  obtain ⟨ht, hread'⟩ := read_encode_wide t
  constructor
  · intro h
    rw [h, hread'] at hread
    exact (Option.some.inj hread).symm
  · intro h
    rw [hs, ht, h]

/--
**When wide texts are encoded alike.**  They are exactly if they have the same marks, which
are the same characters that stand for themselves and, between them, the same significant
bytes.  If the characters at the same places take as many bytes, the texts are the same.
-/
theorem wide_encodings_alike_iff (s t : List Char) :
    (encode (.wide s) = encode (.wide t) ↔ marks s = marks t) ∧
    (encode (.wide s) = encode (.wide t) ∧ s.map byteCount = t.map byteCount ↔ s = t) := by
  refine ⟨encode_wide_eq_iff, ?_, ?_⟩
  · intro h
    obtain ⟨hencode, hcount⟩ := h
    exact eq_of_marks_eq (encode_wide_eq_iff.mp hencode) hcount
  · intro h
    rw [h]
    exact ⟨rfl, rfl⟩

/-- **Wide encoding confuses texts**: one character of two bytes with two characters of one. -/
theorem wide_encoding_confuses :
    ¬∀ s t : List Char, encode (.wide s) = encode (.wide t) → s = t := by
  intro h
  have hsame : encode (.wide ['℡']) = encode (.wide ['!', '!']) := by decide
  exact absurd (h _ _ hsame) (by decide)

end TemplateExpr.Percent
