/-
Where the window of the positional arguments ends up.

`Window.widen` takes one parameter at a time, backward while there is one before the
window and forward after that.  Nothing is lost on the way, each step moves at most one
parameter inside, and it is taken from the front as long as the front has one; these
three facts fix the window it ends with.  Counted in free parameters, the window starts
at the first mandatory one or as far before it as the arguments reach, and holds as
many parameters as there are arguments or free parameters.

The one exception is a window that was never anchored: with nothing mandatory and a
marker in front, the window stays shut however many arguments there are.
-/
import Mathlib.Data.List.TakeWhile
import TemplateExpr.Binding

namespace TemplateExpr.Window

/-- The free parameters a window is cut out of, in declaration order. -/
def all (w : Window) : List Formal := w.before.reverse ++ w.inside ++ w.after

theorem inside_eq (w : Window) : w.inside = (w.all.drop w.before.length).take w.inside.length := by
  unfold all
  rw [List.append_assoc, List.drop_append_of_le_length (by simp), List.drop_of_length_le (by simp)]
  simp

theorem outside_eq (w : Window) :
    w.outside = w.all.take w.before.length ++ w.all.drop (w.before.length + w.inside.length) := by
  unfold outside all
  congr 1
  · rw [List.append_assoc, List.take_append_of_le_length (by simp),
      List.take_of_length_le (by simp)]
  · rw [List.drop_append, List.drop_of_length_le (by simp)]
    simp

/-! ### Widening keeps the parameters and moves one at a time

The parameters stay in one row, cut in three.  So the window is known from two numbers,
how many are before it and how many inside, and widening changes these in a way that can
be computed without looking at a parameter.
-/

@[simp] theorem all_widen (n : Nat) (w : Window) : (w.widen n).all = w.all := by
  induction n generalizing w with
  | zero => rfl
  | succ n ih =>
      obtain ⟨before, inside, after⟩ := w
      cases before with
      | cons f before =>
          rw [widen, ih]
          simp [all]
      | nil =>
          cases after with
          | cons f after =>
              rw [widen, ih]
              simp [all]
          | nil => rfl

theorem length_before_widen (n : Nat) (w : Window) :
    (w.widen n).before.length = w.before.length - n := by
  induction n generalizing w with
  | zero => rfl
  | succ n ih =>
      obtain ⟨before, inside, after⟩ := w
      cases before with
      | cons f before =>
          rw [widen, ih]
          simp only [List.length_cons]
          omega
      | nil =>
          cases after with
          | cons f after =>
              rw [widen, ih]
              simp
          | nil => simp [widen]

theorem length_inside_widen (n : Nat) (w : Window) :
    (w.widen n).inside.length = min (w.inside.length + n) w.all.length := by
  induction n generalizing w with
  | zero =>
      simp only [widen, all, List.length_append]
      omega
  | succ n ih =>
      obtain ⟨before, inside, after⟩ := w
      cases before with
      | cons f before =>
          rw [widen, ih]
          simp only [all, List.length_append, List.length_reverse, List.length_cons]
          omega
      | nil =>
          cases after with
          | cons f after =>
              rw [widen, ih]
              simp only [all, List.length_append, List.length_reverse, List.length_cons,
                List.length_nil]
              omega
          | nil =>
              simp only [widen, all, List.length_append, List.length_reverse, List.length_nil]
              omega

/-! ### The window in numbers

These numbers are the specification: they are stated in terms of the free parameters,
the first mandatory one and the number of arguments, with no window in sight.
-/

section

variable {ε : Type} (formals : List Formal) (keyword : Dict ε)

/-- The parameters positional arguments may fill. -/
def free : List Formal := formals.filter (·.isFree keyword)

/-- Whether nothing is mandatory and the first parameter no keyword names is a marker. -/
def staysShut : Bool :=
  (free formals keyword).all (!·.mandatory) &&
    (formals.find? fun f => !f.isNamed keyword).any (·.isCatchAll)

/-- How many parameters `arguments` positional arguments fill. -/
def count (arguments : Nat) : Nat :=
  if staysShut formals keyword then 0 else min arguments (free formals keyword).length

/-- The free parameter the window starts with: the first mandatory one, or one before it. -/
def start (arguments : Nat) : Nat :=
  match (free formals keyword).findIdx? (·.mandatory) with
  | some m => m - min m (count formals keyword arguments - 1)
  | none => 0

end

/-! ### The anchor -/

private theorem findIdx?_eq_takeWhile {α : Type} (p : α → Bool) (l : List α) :
    l.findIdx? p = if l.dropWhile (!p ·) = [] then none else some (l.takeWhile (!p ·)).length := by
  induction l with
  | nil => rfl
  | cons x l ih =>
      by_cases h : p x
      · simp [List.findIdx?_cons, h]
      · by_cases hl : l.dropWhile (!p ·) = [] <;> simp [List.findIdx?_cons, h, ih, hl]

variable {ε : Type} {formals : List Formal} {keyword : Dict ε}

/-- The anchor is the first mandatory free parameter, or the first free one if none is. -/
theorem anchor?_eq_some {w : Window} (h : anchor? formals keyword = some w) :
    w.all = free formals keyword ∧ w.inside.length = 1 ∧
      w.before.length = ((free formals keyword).findIdx? (·.mandatory)).getD 0 := by
  have hsplit := List.takeWhile_append_dropWhile (p := fun f : Formal => !f.mandatory)
    (l := free formals keyword)
  rw [findIdx?_eq_takeWhile]
  unfold anchor? at h
  simp only at h
  split at h
  · rename_i head after hdrop
    have hdrop' : (free formals keyword).dropWhile (fun f => !f.mandatory) = head :: after := hdrop
    simp only [Option.some.injEq] at h
    subst h
    rw [hdrop'] at hsplit ⊢
    refine ⟨?_, rfl, ?_⟩
    · rw [← hsplit]
      simp [all, free]
    · simp [free]
  · rename_i hdrop
    have hdrop' : (free formals keyword).dropWhile (fun f => !f.mandatory) = [] := hdrop
    split at h
    · rename_i first rest head after hrest hfree
      by_cases hmark : first.isCatchAll
      · simp [hmark] at h
      · simp only [hmark, Bool.false_eq_true, if_false, Option.some.injEq] at h
        subst h
        refine ⟨?_, rfl, ?_⟩
        · rw [free, hfree]
          rfl
        · simp [hdrop']
    · simp at h

/-- Parameters keywords name are not free. -/
theorem free_eq_nil_of_all_named (h : formals.dropWhile (·.isNamed keyword) = []) :
    free formals keyword = [] := by
  rw [List.dropWhile_eq_nil_iff] at h
  refine List.filter_eq_nil_iff.mpr ?_
  intro f hf hfree
  have hnamed := h f hf
  simp only [Formal.isNamed, Formal.isFree, Bool.and_eq_true, Bool.not_eq_true'] at hnamed hfree
  rw [hnamed.2] at hfree
  exact Bool.noConfusion hfree.2

/-- There is no anchor where the window stays shut or nothing is free. -/
theorem anchor?_eq_none_iff :
    anchor? formals keyword = none ↔
      staysShut formals keyword = true ∨ free formals keyword = [] := by
  have hmandatory : (free formals keyword).all (!·.mandatory) = true ↔
      (free formals keyword).dropWhile (fun f => !f.mandatory) = [] := by
    rw [List.dropWhile_eq_nil_iff, List.all_eq_true]
  unfold anchor? staysShut
  rw [List.find?_not_eq_head?_dropWhile, Bool.and_eq_true, hmandatory]
  simp only
  split
  · rename_i head after hdrop
    have hdrop' : (free formals keyword).dropWhile (fun f => !f.mandatory) = head :: after := hdrop
    have hne : free formals keyword ≠ [] := by
      intro h
      rw [h] at hdrop'
      simp at hdrop'
    simp [hdrop', hne]
  · rename_i hdrop
    have hdrop' : (free formals keyword).dropWhile (fun f => !f.mandatory) = [] := hdrop
    split
    · rename_i first rest head after hrest hfree
      have hne : free formals keyword ≠ [] := by
        rw [free, hfree]
        simp
      simp [hdrop', hrest, hne]
    · rename_i hno
      refine iff_of_true rfl (Or.inr ?_)
      rcases hrest : formals.dropWhile (·.isNamed keyword) with _ | ⟨first, rest⟩
      · exact free_eq_nil_of_all_named hrest
      · rcases hfree : free formals keyword with _ | ⟨head, after⟩
        · rfl
        · exact absurd hfree (hno first rest head after hrest)

/-! ### The filled window

Anchoring uses up the first argument, so a window for `n + 1` arguments is the anchored
one widened `n` times.  A window that was never anchored takes nothing, however many
arguments there are.
-/

theorem count_of_staysShut {arguments : Nat} (h : staysShut formals keyword = true) :
    count formals keyword arguments = 0 := if_pos h

theorem count_of_not_staysShut {arguments : Nat} (h : ¬staysShut formals keyword = true) :
    count formals keyword arguments = min arguments (free formals keyword).length := if_neg h

theorem count_le (formals : List Formal) (keyword : Dict ε) (arguments : Nat) :
    count formals keyword arguments ≤ arguments := by
  unfold count
  split
  · exact Nat.zero_le _
  · exact Nat.min_le_left _ _

/-- A window that takes nothing leaves all free parameters outside. -/
private theorem ofCount_of_count_eq_zero {arguments : Nat}
    (h : count formals keyword arguments = 0) :
    ofCount formals keyword arguments = shut (free formals keyword) := by
  unfold ofCount
  split
  · rename_i n w hw
    have hne : ¬(staysShut formals keyword = true ∨ free formals keyword = []) := by
      rw [← anchor?_eq_none_iff, hw]
      simp
    rw [not_or] at hne
    have hpos : 0 < (free formals keyword).length := List.length_pos_iff.mpr hne.2
    rw [count_of_not_staysShut hne.1] at h
    omega
  · rfl

/-- A window that takes something was anchored, and then widened once per further argument. -/
private theorem exists_widen_of_count_pos {arguments : Nat}
    (h : 0 < count formals keyword arguments) :
    ∃ n w, arguments = n + 1 ∧ anchor? formals keyword = some w ∧
      ofCount formals keyword arguments = w.widen n := by
  have hshut : ¬staysShut formals keyword = true := by
    intro hs
    rw [count_of_staysShut hs] at h
    exact Nat.lt_irrefl 0 h
  rw [count_of_not_staysShut hshut] at h
  obtain ⟨n, rfl⟩ : ∃ n, arguments = n + 1 := ⟨arguments - 1, by omega⟩
  have hfree : free formals keyword ≠ [] := List.length_pos_iff.mp (by omega)
  rcases hw : anchor? formals keyword with _ | w
  · exact absurd (anchor?_eq_none_iff.mp hw) (not_or.mpr ⟨hshut, hfree⟩)
  · exact ⟨n, w, rfl, rfl, by simp only [ofCount, hw]⟩

/-- The bounds a filled window has among the free parameters. -/
theorem bounds_ofCount {arguments : Nat} (h : 0 < count formals keyword arguments) :
    (ofCount formals keyword arguments).all = free formals keyword ∧
      (ofCount formals keyword arguments).before.length = start formals keyword arguments ∧
      (ofCount formals keyword arguments).inside.length = count formals keyword arguments := by
  obtain ⟨n, w, rfl, hw, hwiden⟩ := exists_widen_of_count_pos h
  obtain ⟨hall, hinside, hbefore⟩ := anchor?_eq_some hw
  have hcount : count formals keyword (n + 1) = min (n + 1) (free formals keyword).length := by
    refine count_of_not_staysShut fun hshut => ?_
    rw [count_of_staysShut hshut] at h
    exact Nat.lt_irrefl 0 h
  have hlen : w.before.length + w.inside.length ≤ (free formals keyword).length := by
    rw [← hall]
    simp only [all, List.length_append, List.length_reverse]
    omega
  rw [hwiden, all_widen, length_before_widen, length_inside_widen, hall, hinside]
  refine ⟨rfl, ?_, by omega⟩
  rcases hm : (free formals keyword).findIdx? (·.mandatory) with _ | m
  · simp only [hm, Option.getD_none] at hbefore
    simp only [start, hm]
    omega
  · simp only [hm, Option.getD_some] at hbefore
    simp only [start, hm]
    omega

theorem inside_ofCount (formals : List Formal) (keyword : Dict ε) (arguments : Nat) :
    (ofCount formals keyword arguments).inside
      = ((free formals keyword).drop (start formals keyword arguments)).take
          (count formals keyword arguments) := by
  rcases Nat.eq_zero_or_pos (count formals keyword arguments) with hzero | hpos
  · rw [ofCount_of_count_eq_zero hzero, hzero]
    rfl
  · obtain ⟨hall, hbefore, hinside⟩ := bounds_ofCount hpos
    rw [inside_eq, hall, hbefore, hinside]

theorem outside_ofCount (formals : List Formal) (keyword : Dict ε) (arguments : Nat) :
    (ofCount formals keyword arguments).outside
      = (free formals keyword).take (start formals keyword arguments) ++
          (free formals keyword).drop
            (start formals keyword arguments + count formals keyword arguments) := by
  rcases Nat.eq_zero_or_pos (count formals keyword arguments) with hzero | hpos
  · rw [ofCount_of_count_eq_zero hzero, hzero, Nat.add_zero, List.take_append_drop]
    rfl
  · obtain ⟨hall, hbefore, hinside⟩ := bounds_ofCount hpos
    rw [outside_eq, hall, hbefore, hinside]

theorem length_inside_ofCount (formals : List Formal) (keyword : Dict ε) (arguments : Nat) :
    (ofCount formals keyword arguments).inside.length = count formals keyword arguments := by
  rcases Nat.eq_zero_or_pos (count formals keyword arguments) with hzero | hpos
  · rw [ofCount_of_count_eq_zero hzero, hzero]
    rfl
  · exact (bounds_ofCount hpos).2.2

end TemplateExpr.Window
