/-
What trimming makes of a text.

A text that is not blank is some whitespace, then solid characters with gaps between
them, each gap a run of whitespace that may be empty, and then whitespace again.
`Spaced` reads a text from its first solid character on in this way and leaves of every
gap the first character at most, and trimming gives exactly that.  The rest of the module
is about this reading: each of its properties is an induction on the gaps.

`Trimmed` says what trimming does without the gaps: it keeps the solid characters and
trades every whitespace run between two of them for its first character.  This decides
the text, so nothing else that trims is possible.
-/
import Mathlib.Data.List.DropRight
import TemplateExpr.Proofs.Render.Append
import TemplateExpr.Proofs.Simulation.Respects

namespace TemplateExpr.Trim

open Unicode (isWhitespace)

variable {a b c : Char} {cs gap l lead r s t x y : List Char}

/-! ### Whitespace and what it separates

The solid characters are what trimming must not touch.  Two facts about them are used
all over: blanks contribute none, and in front of a solid character the gap and the rest
can be told apart.
-/

/-- The text is all whitespace. -/
def Blank (cs : List Char) : Prop := ∀ c ∈ cs, isWhitespace c = true

/-- The characters that are not whitespace, in order. -/
def solid (cs : List Char) : List Char := cs.filter fun c => !isWhitespace c

theorem Blank.nil : Blank [] := nofun

theorem blank_cons_iff : Blank (c :: cs) ↔ isWhitespace c = true ∧ Blank cs :=
  List.forall_mem_cons

theorem Blank.append (hs : Blank s) (ht : Blank t) : Blank (s ++ t) :=
  fun c hc => (List.mem_append.mp hc).elim (hs c) (ht c)

theorem Blank.take (h : Blank gap) (n : Nat) : Blank (gap.take n) :=
  fun c hc => h c (List.mem_of_mem_take hc)

theorem Blank.not_mem (h : Blank gap) (ha : isWhitespace a = false) : a ∉ gap :=
  fun hmem => absurd (h a hmem) (ne_true_of_eq_false ha)

theorem solid_append (s t : List Char) : solid (s ++ t) = solid s ++ solid t :=
  List.filter_append s t

theorem solid_cons (ha : isWhitespace a = false) (cs : List Char) :
    solid (a :: cs) = a :: solid cs :=
  List.filter_cons_of_pos (by rw [ha]; rfl)

theorem solid_eq_nil_iff : solid cs = [] ↔ Blank cs := by
  simp [solid, Blank]

theorem Blank.solid (h : Blank cs) : solid cs = [] := solid_eq_nil_iff.mpr h

theorem Blank.solid_append_eq (h : Blank gap) (cs : List Char) :
    Trim.solid (gap ++ cs) = Trim.solid cs := by
  rw [solid_append, h.solid, List.nil_append]

/-- A text is blank, or it has a first solid character. -/
theorem blank_or_solid (cs : List Char) :
    Blank cs ∨ ∃ lead a r, Blank lead ∧ isWhitespace a = false ∧ cs = lead ++ a :: r := by
  induction cs with
  | nil => exact .inl Blank.nil
  | cons c cs ih =>
      cases hc : isWhitespace c with
      | false => exact .inr ⟨[], c, cs, Blank.nil, hc, rfl⟩
      | true =>
          obtain hcs | ⟨lead, a, r, hlead, ha, rfl⟩ := ih
          · exact .inl (blank_cons_iff.mpr ⟨hc, hcs⟩)
          · exact .inr ⟨c :: lead, a, r, blank_cons_iff.mpr ⟨hc, hlead⟩, ha, rfl⟩

/-- Where a text begins with whitespace, a solid character comes after it. -/
theorem exists_of_gap_append_eq (hgap : Blank gap) (ha : isWhitespace a = false)
    (h : gap ++ s = l ++ a :: r) : ∃ l', l = gap ++ l' ∧ s = l' ++ a :: r := by
  obtain ⟨l', hl, hs⟩ | ⟨rest, hl, hs⟩ := List.append_eq_append_iff.mp h
  · exact ⟨l', hl, hs⟩
  · cases rest with
    | nil => exact ⟨[], by simpa using hl.symm, hs.symm⟩
    | cons d rest =>
        obtain ⟨rfl, -⟩ := List.cons.inj hs
        exact absurd (hl ▸ List.mem_append_right l List.mem_cons_self) (hgap.not_mem ha)

/-- The whitespace a text begins with ends in one place. -/
theorem gap_inj (hgap : Blank gap) (hl : Blank l) (ha : isWhitespace a = false)
    (hb : isWhitespace b = false) (h : gap ++ a :: s = l ++ b :: r) :
    gap = l ∧ a = b ∧ s = r := by
  obtain ⟨l', rfl, hs⟩ := exists_of_gap_append_eq hgap hb h
  cases l' with
  | nil => exact ⟨(List.append_nil gap).symm, List.cons.inj hs⟩
  | cons d l' =>
      obtain ⟨rfl, -⟩ := List.cons.inj hs
      exact absurd (List.mem_append_right gap List.mem_cons_self) (hl.not_mem ha)

/-! ### Gaps

The two indices of `Spaced` are the text and what is left of it, and its two
constructors are the two places a gap can be in: behind the last solid character, where
it goes, and between two of them, where its first character stays.
-/

/-- A text from its first solid character on, and what is left when every gap is shortened. -/
inductive Spaced : List Char → List Char → Prop
  | last {a : Char} {gap : List Char} (ha : isWhitespace a = false) (hgap : Blank gap) :
      Spaced (a :: gap) [a]
  | next {a b : Char} {gap r t : List Char} (ha : isWhitespace a = false) (hgap : Blank gap)
      (hb : isWhitespace b = false) (hrest : Spaced (b :: r) (b :: t)) :
      Spaced (a :: (gap ++ b :: r)) (a :: (gap.take 1 ++ b :: t))

theorem exists_spaced (ha : isWhitespace a = false) (cs : List Char) :
    ∃ t, Spaced (a :: cs) (a :: t) := by
  induction hn : cs.length using Nat.strongRecOn generalizing a cs with
  | _ n ih =>
      obtain hblank | ⟨gap, b, r, hgap, hb, rfl⟩ := blank_or_solid cs
      · exact ⟨[], .last ha hblank⟩
      · have hlt : r.length < n := by
          rw [← hn, List.length_append, List.length_cons]
          omega
        obtain ⟨t, hrest⟩ := ih r.length hlt hb r rfl
        exact ⟨_, .next ha hgap hb hrest⟩

/-- A text is blank, or whitespace and a text with a reading. -/
theorem blank_or_spaced (cs : List Char) :
    Blank cs ∨ ∃ lead s t, Blank lead ∧ Spaced s t ∧ cs = lead ++ s := by
  obtain hblank | ⟨lead, a, r, hlead, ha, rfl⟩ := blank_or_solid cs
  · exact .inl hblank
  · obtain ⟨t, hspaced⟩ := exists_spaced ha r
    exact .inr ⟨lead, _, _, hlead, hspaced, rfl⟩

namespace Spaced

/-- Whitespace at the end is part of the last gap. -/
theorem append (h : Spaced s t) (hy : Blank y) : Spaced (s ++ y) t := by
  induction h with
  | last ha hgap => exact .last ha (hgap.append hy)
  | next ha hgap hb _ ih =>
      rw [List.cons_append, List.append_assoc]
      exact .next ha hgap hb ih

/-- What is left has gaps that cannot be shortened any more. -/
theorem self (h : Spaced s t) : Spaced t t := by
  induction h with
  | last ha _ => exact .last ha Blank.nil
  | @next a b gap r t ha hgap hb _ ih =>
      have hnext := Spaced.next ha (hgap.take 1) hb ih
      rwa [List.take_take, Nat.min_self] at hnext

theorem solid_eq (h : Spaced s t) : solid t = solid s := by
  induction h with
  | last ha hgap =>
      rw [solid_cons ha, solid_cons ha, hgap.solid]
      rfl
  | next ha hgap _ _ ih =>
      rw [solid_cons ha, solid_cons ha, (hgap.take 1).solid_append_eq, hgap.solid_append_eq, ih]

theorem sublist (h : Spaced s t) : t.Sublist s := by
  induction h with
  | last _ _ => exact (List.nil_sublist _).cons_cons _
  | next _ _ _ _ ih => exact ((List.take_sublist 1 _).append ih).cons_cons _

theorem first_solid (h : Spaced s t) : ∃ a r, s = a :: r ∧ isWhitespace a = false := by
  cases h with
  | last ha _ => exact ⟨_, _, rfl, ha⟩
  | next ha _ _ _ => exact ⟨_, _, rfl, ha⟩

theorem last_solid (h : Spaced s t) : ∃ l a, t = l ++ [a] ∧ isWhitespace a = false := by
  induction h with
  | last ha _ => exact ⟨[], _, rfl, ha⟩
  | @next a b gap r t _ _ _ _ ih =>
      obtain ⟨l, z, ht, hz⟩ := ih
      exact ⟨a :: (gap.take 1 ++ l), z, by rw [ht]; simp, hz⟩

/-- Of two characters that are left side by side one is solid. -/
theorem apart (h : Spaced s t) :
    t.IsChain fun c d => ¬(isWhitespace c = true ∧ isWhitespace d = true) := by
  induction h with
  | last _ _ => exact .singleton _
  | @next a b gap r t ha _ hb _ ih =>
      have hsolid : ∀ c d, isWhitespace c = false ∨ isWhitespace d = false →
          ¬(isWhitespace c = true ∧ isWhitespace d = true) := by grind
      cases gap with
      | nil => exact .cons_cons (hsolid a b (.inl ha)) ih
      | cons d gap => exact .cons_cons (hsolid a d (.inl ha)) (.cons_cons (hsolid d b (.inr hb)) ih)

/-- A gap between two characters is the first character of it afterwards. -/
theorem between (h : Spaced s t) (ha : isWhitespace a = false) (hb : isWhitespace b = false)
    (hgap : Blank gap) (hs : s = l ++ a :: (gap ++ b :: r)) :
    ∃ l' r', t = l' ++ a :: (gap.take 1 ++ b :: r') ∧ solid l' = solid l ∧ solid r' = solid r := by
  induction h generalizing l with
  | @last a₀ gap₀ ha₀ hgap₀ =>
      -- After the last solid character there is no other.
      have hb₀ : b ∈ gap₀ := by
        cases l with
        | nil => simp [(List.cons.inj hs).2]
        | cons d l => simp [(List.cons.inj hs).2]
      exact absurd hb₀ (hgap₀.not_mem hb)
  | @next a₀ b₀ gap₀ r₀ t₀ ha₀ hgap₀ hb₀ hrest ih =>
      cases l with
      | nil =>
          obtain ⟨rfl, htail⟩ := List.cons.inj hs
          obtain ⟨rfl, rfl, rfl⟩ := gap_inj hgap₀ hgap hb₀ hb htail
          have hsolid := hrest.solid_eq
          rw [solid_cons hb₀, solid_cons hb₀] at hsolid
          exact ⟨[], t₀, rfl, rfl, (List.cons.inj hsolid).2⟩
      | cons d l =>
          obtain ⟨rfl, htail⟩ := List.cons.inj hs
          obtain ⟨l₀, rfl, hrest'⟩ := exists_of_gap_append_eq hgap₀ ha htail
          obtain ⟨l', r', ht, hl', hr'⟩ := ih hrest'
          refine ⟨a₀ :: (gap₀.take 1 ++ l'), r', by rw [ht]; simp, ?_, hr'⟩
          rw [solid_cons ha₀, solid_cons ha₀, (hgap₀.take 1).solid_append_eq,
            hgap₀.solid_append_eq, hl']

end Spaced

/-! ### The walk

The walk strips both ends and then collapses what is between.  `collapse` carries a flag
for an open gap, and on a text as `Spaced` reads it the flag is known everywhere, so the
walk computes the second index.
-/

/-- Only what follows the last solid character is stripped. -/
theorem dropEndWhile_append_cons (hb : isWhitespace b = false) (s r : List Char) :
    dropEndWhile isWhitespace (s ++ b :: r) = s ++ b :: dropEndWhile isWhitespace r := by
  have hsolid : (b :: s.reverse).dropWhile isWhitespace = b :: s.reverse :=
    List.dropWhile_cons_of_neg (ne_true_of_eq_false hb)
  unfold dropEndWhile
  rw [List.reverse_append, List.reverse_cons, List.append_assoc, List.singleton_append,
    List.dropWhile_append]
  split
  next hempty =>
    rw [hsolid, List.isEmpty_iff.mp hempty]
    simp
  next => simp

theorem Blank.dropEndWhile_eq_nil (h : Blank cs) : dropEndWhile isWhitespace cs = [] :=
  List.rdropWhile_eq_nil_iff.mpr h

/-- Where a text has no whitespace, blanks around it are all that is stripped. -/
theorem ends_of_solid (hx : Blank x) (hy : Blank y) (hs : ∀ c ∈ s, isWhitespace c = false)
    (hne : s ≠ []) : ends (x ++ (s ++ y)) = s := by
  have hlead : (s ++ y).dropWhile isWhitespace = s ++ y := by
    obtain ⟨a, r, rfl⟩ := List.exists_cons_of_ne_nil hne
    exact List.dropWhile_cons_of_neg (ne_true_of_eq_false (hs a List.mem_cons_self))
  unfold ends
  rw [List.dropWhile_append_of_pos hx, hlead]
  obtain ⟨l, b, rfl⟩ := List.eq_nil_or_concat' s |>.resolve_left hne
  rw [List.append_assoc, List.singleton_append, dropEndWhile_append_cons (hs b (by simp)),
    hy.dropEndWhile_eq_nil]

theorem collapse_cons_of_solid (ha : isWhitespace a = false) (inRun : Bool) (cs : List Char) :
    collapse inRun (a :: cs) = a :: collapse false cs := by
  rw [collapse, ha]
  rfl

/-- In an open run a gap is dropped. -/
theorem Blank.collapse_true (hgap : Blank gap) (cs : List Char) :
    collapse true (gap ++ cs) = collapse true cs := by
  induction gap with
  | nil => rfl
  | cons c gap ih =>
      obtain ⟨hc, hrest⟩ := blank_cons_iff.mp hgap
      rw [List.cons_append, collapse, if_pos hc, if_pos rfl, ih hrest]

theorem Blank.collapse_false (hgap : Blank gap) (hb : isWhitespace b = false) (r : List Char) :
    collapse false (gap ++ b :: r) = gap.take 1 ++ collapse false (b :: r) := by
  cases gap with
  | nil => rfl
  | cons c gap =>
      obtain ⟨hc, hrest⟩ := blank_cons_iff.mp hgap
      rw [List.cons_append, collapse, if_pos hc, hrest.collapse_true,
        collapse_cons_of_solid hb true, collapse_cons_of_solid hb false]
      rfl

/-- Stripping the end drops the last gap, and collapsing shortens the others. -/
theorem Spaced.collapse_eq (h : Spaced s t) : collapse false (dropEndWhile isWhitespace s) = t := by
  induction h with
  | last ha hgap =>
      rw [← List.nil_append (_ :: _), dropEndWhile_append_cons ha, hgap.dropEndWhile_eq_nil]
      exact collapse_cons_of_solid ha false []
  | @next a b gap r t ha hgap hb _ ih =>
      rw [← List.nil_append (b :: r), dropEndWhile_append_cons hb] at ih
      rw [← List.cons_append, dropEndWhile_append_cons hb, List.cons_append,
        collapse_cons_of_solid ha, hgap.collapse_false hb]
      exact congrArg (a :: gap.take 1 ++ ·) ih

theorem normalize_eq_nil (h : Blank cs) : normalize cs = [] := by
  unfold normalize ends
  rw [List.dropWhile_eq_nil_iff.mpr h]
  rfl

/-- **Trimming shortens every gap** and drops the whitespace around the text. -/
theorem Spaced.normalize_eq (h : Spaced s t) (hlead : Blank lead) : normalize (lead ++ s) = t := by
  obtain ⟨a, r, rfl, ha⟩ := h.first_solid
  unfold normalize ends
  rw [List.dropWhile_append_of_pos hlead, List.dropWhile_cons_of_neg (ne_true_of_eq_false ha)]
  exact h.collapse_eq

/-- A text is blank and trimmed to nothing, or read with gaps and trimmed by them. -/
theorem normalize_cases (s : List Char) :
    Blank s ∧ normalize s = [] ∨
      ∃ lead s', s = lead ++ s' ∧ Blank lead ∧ Spaced s' (normalize s) := by
  obtain hblank | ⟨lead, s', t, hlead, hspaced, rfl⟩ := blank_or_spaced s
  · exact .inl ⟨hblank, normalize_eq_nil hblank⟩
  · refine .inr ⟨lead, s', rfl, hlead, ?_⟩
    rwa [hspaced.normalize_eq hlead]

theorem normalize_sublist (s : List Char) : (normalize s).Sublist s := by
  obtain ⟨-, hnil⟩ | ⟨lead, s, rfl, -, hspaced⟩ := normalize_cases s
  · exact hnil ▸ List.nil_sublist s
  · exact hspaced.sublist.trans (List.sublist_append_right lead s)

theorem normalize_apart (s : List Char) :
    (normalize s).IsChain fun c d => ¬(isWhitespace c = true ∧ isWhitespace d = true) := by
  obtain ⟨-, hnil⟩ | ⟨lead, s, rfl, -, hspaced⟩ := normalize_cases s
  · exact hnil ▸ .nil
  · exact hspaced.apart

theorem normalize_normalize (s : List Char) : normalize (normalize s) = normalize s := by
  obtain ⟨-, hnil⟩ | ⟨lead, s, rfl, -, hspaced⟩ := normalize_cases s
  · rw [hnil]
    rfl
  · exact hspaced.self.normalize_eq Blank.nil

/-- Whitespace around a text does not matter. -/
theorem normalize_append_append (s : List Char) (hx : Blank x) (hy : Blank y) :
    normalize (x ++ s ++ y) = normalize s := by
  obtain ⟨hblank, hnil⟩ | ⟨lead, s, rfl, hlead, hspaced⟩ := normalize_cases s
  · rw [hnil, normalize_eq_nil ((hx.append hblank).append hy)]
  · rw [← List.append_assoc x, List.append_assoc (x ++ lead)]
    exact (hspaced.append hy).normalize_eq (hx.append hlead)

/-! ### What trimming does

`Trimmed` does not mention the walk, the gaps or their order.  It is a specification: it
has a solution, trimming, and no other one.
-/

/-- What trimming makes of a text, in terms of the solid characters. -/
structure Trimmed (s t : List Char) : Prop where
  /-- No solid character is lost or moved. -/
  kept : solid t = solid s
  first : ∀ c r, t = c :: r → isWhitespace c = false
  last : ∀ l c, t = l ++ [c] → isWhitespace c = false
  /-- What stands between two solid characters is its own first character, or still nothing. -/
  between : ∀ l a gap b r, s = l ++ a :: (gap ++ b :: r) →
    isWhitespace a = false → isWhitespace b = false → Blank gap →
    ∃ l' r', t = l' ++ a :: (gap.take 1 ++ b :: r') ∧ solid l' = solid l ∧ solid r' = solid r

theorem Blank.trimmed (h : Blank s) : Trimmed s [] where
  kept := h.solid.symm
  first := nofun
  last l c ht := absurd ht (by simp)
  between l a gap b r hs ha _ _ := absurd (hs ▸ by simp) (h.not_mem ha)

theorem Spaced.trimmed (h : Spaced s t) (hlead : Blank lead) : Trimmed (lead ++ s) t where
  kept := by rw [hlead.solid_append_eq, h.solid_eq]
  first c r ht := by
    obtain ⟨a, r', ht', ha⟩ := h.self.first_solid
    obtain ⟨rfl, -⟩ := List.cons.inj (ht.symm.trans ht')
    exact ha
  last l c ht := by
    obtain ⟨l', z, ht', hz⟩ := h.last_solid
    obtain ⟨-, rfl⟩ := List.append_singleton_inj.mp (ht.symm.trans ht')
    exact hz
  between l a gap b r hs ha hb hgap := by
    obtain ⟨l₀, rfl, hrest⟩ := exists_of_gap_append_eq hlead ha hs
    rw [hlead.solid_append_eq]
    exact h.between ha hb hgap hrest

namespace Trimmed

theorem of_blank_append (hlead : Blank lead) (h : Trimmed (lead ++ s) t) : Trimmed s t where
  kept := by rw [h.kept, hlead.solid_append_eq]
  first := h.first
  last := h.last
  between l a gap b r hs ha hb hgap := by
    have hbetween := h.between (lead ++ l) a gap b r (by rw [hs, List.append_assoc]) ha hb hgap
    rwa [hlead.solid_append_eq] at hbetween

/-- What is left behind the first gap is what trimming makes of the text behind it. -/
theorem tail (ha : isWhitespace a = false) (hb : isWhitespace b = false) (hgap : Blank gap)
    (h : Trimmed (a :: (gap ++ b :: r)) (a :: (gap.take 1 ++ b :: t))) :
    Trimmed (b :: r) (b :: t) where
  kept := by
    have hkept := h.kept
    rw [solid_cons ha, solid_cons ha, (hgap.take 1).solid_append_eq, hgap.solid_append_eq] at hkept
    exact (List.cons.inj hkept).2
  first c r hc := (List.cons.inj hc).1 ▸ hb
  last l c hl := h.last (a :: (gap.take 1 ++ l)) c (by rw [hl]; simp)
  between l x g y z hr hx hy hg := by
    obtain ⟨l', z', ht, hl', hz'⟩ :=
      h.between (a :: (gap ++ l)) x g y z (by rw [hr]; simp) hx hy hg
    rw [solid_cons ha, hgap.solid_append_eq] at hl'
    cases l' with
    | nil => cases hl'
    | cons d l' =>
        obtain ⟨rfl, htail⟩ := List.cons.inj ht
        obtain ⟨l₀, rfl, hrest⟩ := exists_of_gap_append_eq (hgap.take 1) hx htail
        rw [solid_cons ha, (hgap.take 1).solid_append_eq] at hl'
        exact ⟨l₀, z', hrest, (List.cons.inj hl').2, hz'⟩

theorem eq_nil (hs : Blank s) (h : Trimmed s t) : t = [] := by
  have hblank : Blank t := solid_eq_nil_iff.mp (h.kept.trans hs.solid)
  cases t with
  | nil => rfl
  | cons c r => exact absurd (hblank c List.mem_cons_self) (ne_true_of_eq_false (h.first c r rfl))

/-- The solid characters and the gaps decide the text. -/
theorem eq_of_spaced (hspaced : Spaced s t) (h : Trimmed s x) : x = t := by
  induction hspaced generalizing x with
  | @last a gap ha hgap =>
      have hkept := h.kept
      rw [solid_cons ha, hgap.solid] at hkept
      cases x with
      | nil => cases hkept
      | cons c r =>
          rw [solid_cons (h.first c r rfl)] at hkept
          obtain ⟨rfl, hr⟩ := List.cons.inj hkept
          -- What follows the only solid character is blank, but the last character is solid.
          obtain rfl | ⟨l, d, rfl⟩ := List.eq_nil_or_concat r
          · rfl
          · have hd : isWhitespace d = false := h.last (c :: l) d (by simp)
            exact absurd (by simp) ((solid_eq_nil_iff.mp hr).not_mem hd)
  | @next a b gap r t ha hgap hb _ ih =>
      obtain ⟨l, r', rfl, hl, -⟩ := h.between [] a gap b r rfl ha hb hgap
      -- Before the first solid character there is only whitespace, and no text starts with that.
      have hl : l = [] := by
        cases l with
        | nil => rfl
        | cons c l =>
            have hc := h.first c _ rfl
            rw [solid_cons hc] at hl
            cases hl
      subst hl
      obtain ⟨-, rfl⟩ := List.cons.inj (ih (h.tail ha hb hgap))
      rfl

end Trimmed

theorem trimmed_normalize (s : List Char) : Trimmed s (normalize s) := by
  obtain ⟨hblank, hnil⟩ | ⟨lead, s, rfl, hlead, hspaced⟩ := normalize_cases s
  · exact hnil ▸ hblank.trimmed
  · exact hspaced.trimmed hlead

theorem trimmed_iff : Trimmed s t ↔ t = normalize s := by
  refine ⟨fun h => ?_, fun h => h ▸ trimmed_normalize s⟩
  obtain ⟨hblank, hnil⟩ | ⟨lead, s, rfl, hlead, hspaced⟩ := normalize_cases s
  · rw [hnil, h.eq_nil hblank]
  · exact (h.of_blank_append hlead).eq_of_spaced hspaced

/--
**Trimming normalizes whitespace.**  It keeps the solid characters of a text in order, leaves
no whitespace at the ends, and makes of what stands between two solid characters the first
character of it, or still nothing; only one text is like that.  So nothing but characters of
the text is left, whitespace is never next to whitespace, trimming again changes nothing, and
whitespace around the text does not matter.  The filter does this to the text of a value, in
the width it has.
-/
theorem normalize_trims (s : List Char) :
    (∀ t, Trimmed s t ↔ t = normalize s) ∧
    (normalize s).Sublist s ∧
    ((normalize s).IsChain fun c d => ¬(isWhitespace c = true ∧ isWhitespace d = true)) ∧
    normalize (normalize s) = normalize s ∧
    (∀ x y, Blank x → Blank y → normalize (x ++ s ++ y) = normalize s) ∧
    ∀ (u : Text) (args args' : List Value), u.chars = s →
      ∃ u', Filter.trim.result u args = .text u' ∧ u'.chars = normalize s ∧ u'.width = u.width ∧
        Filter.trim.result u' args' = .text u' := by
  refine ⟨fun t => trimmed_iff, normalize_sublist s, normalize_apart s, normalize_normalize s,
    fun x y => normalize_append_append s, ?_⟩
  rintro u args args' rfl
  refine ⟨u.mapChars normalize, rfl, Text.chars_mapChars _ u, Text.width_mapChars _ u, ?_⟩
  refine congrArg Payload.text (Text.ext_chars (Text.width_mapChars _ _) ?_)
  rw [Text.chars_mapChars, Text.chars_mapChars, normalize_normalize]

/-- A tab before the first word and a blank after the last go, and of a mixed run the tab stays. -/
theorem normalize_trims_mixed_runs :
    normalize ['\t', 'a', '\t', ' ', 'b', ' '] = ['a', '\t', 'b'] := by
  have hblank : ∀ c, isWhitespace c = true → Blank [c] :=
    fun c hc => blank_cons_iff.mpr ⟨hc, Blank.nil⟩
  obtain ⟨-, -, -, -, haround, -⟩ := normalize_trims ['a', '\t', ' ', 'b']
  have htext := haround ['\t'] [' '] (hblank '\t' (by decide)) (hblank ' ' (by decide))
  exact htext.trans (by decide +kernel)

end TemplateExpr.Trim
