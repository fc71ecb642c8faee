/-
The values a chain of indices passes through.

A chain of indices reads one value after the other, and each index is a step from the
value reached so far to an element of it.  As soon as one of these values must be kept,
whatever is read out of it hangs off it, and a value that hangs off another must be kept
as well.  So from the first such value on the path stays together: every value hangs off
the one before it, down to the empty value an index that misses reads.  Before that an
element keeps the parent it was stored with.

A path is given by three sequences, of values, of elements and of contexts, because a link
between two values depends on both of them and on everything before.  Which sequences
these are is determined by the evaluation.
-/
import Mathlib.Data.List.Induction
import Mathlib.Data.Nat.Init
import TemplateExpr.Proofs.Rules

namespace TemplateExpr

open EvalM (Answers)

variable {env : Env} {base index : Expr} {indices : List Expr} {c c' c₁ : Context} {v : Value}

/-! ### One index -/

/-- An element hangs off the value it was read out of, if that one must be kept. -/
def Value.hold (base element : Value) : Value :=
  if base.extendsLifetime then element.setParent base else element

@[simp] theorem Value.data_hold (base element : Value) :
    (base.hold element).data = element.data := by
  unfold hold
  split <;> rfl

@[simp] theorem Value.temporary_hold (base element : Value) :
    (base.hold element).temporary = element.temporary := by
  unfold hold
  split <;> rfl

theorem Value.parent_hold (base element : Value) :
    (base.hold element).parent = if base.extendsLifetime then some base else element.parent := by
  unfold hold
  split <;> rfl

/-- What is held hangs off a value and must be kept itself. -/
theorem Value.extendsLifetime_of_parent {v p : Value} (h : v.parent = some p) :
    v.extendsLifetime = true := by
  unfold extendsLifetime
  rw [h]
  rfl

/-- A value is its payload and its two marks. -/
theorem Value.eq_of_parts {v u : Value} (hdata : v.data = u.data)
    (htemporary : v.temporary = u.temporary) (hparent : v.parent = u.parent) : v = u := by
  obtain ⟨data, temporary, parent⟩ := v
  obtain ⟨data', temporary', parent'⟩ := u
  obtain rfl : data = data' := hdata
  obtain rfl : temporary = temporary' := htemporary
  obtain rfl : parent = parent' := hparent
  rfl

theorem Value.parents_of (data : Payload Value) : (Value.of data).parents = [] := by
  rw [of, parents]

theorem Value.parents_of_parent {v p : Value} (h : v.parent = some p) :
    v.parents = p :: p.parents := by
  obtain ⟨data, temporary, parent⟩ := v
  obtain rfl : parent = some p := h
  rw [parents]

/-- One index more reads an element of the value that the indices before it lead to. -/
theorem evaluates_index :
    Evaluates env (.subscript base (indices ++ [index])) c v c₁ ↔
      ∃ cur c' key c'' element, Evaluates env (.subscript base indices) c cur c' ∧
        Evaluates env index c' key c'' ∧ cur.subscript key c'' = some (element, c₁) ∧
        v = cur.hold element := by
  rw [evaluates_subscript_snoc]
  constructor
  · intro h
    obtain ⟨cur, c', key, c'', hcur, hkey, hv, hc₁⟩ := h
    exact ⟨cur, c', key, c'', _, hcur, hkey,
      Answers.const_iff.mp (answers_subscript.mpr ⟨rfl, hc₁⟩), hv⟩
  · intro h
    obtain ⟨cur, c', key, c'', element, hcur, hkey, hread, rfl⟩ := h
    obtain ⟨rfl, hc₁⟩ := answers_subscript.mp (Answers.const_iff.mpr hread)
    exact ⟨cur, c', key, c'', hcur, hkey, rfl, hc₁⟩

/-! ### Chains in two parts -/

/-- A chain of indices is a chain on top of the chain of its first indices. -/
theorem evaluates_subscript_append {xs ys : List Expr} :
    Evaluates env (.subscript base (xs ++ ys)) c v c₁ ↔
      Evaluates env (.subscript (.subscript base xs) ys) c v c₁ := by
  induction ys using List.reverseRecOn generalizing v c₁ with
  | nil => rw [List.append_nil, evaluates_subscript_nil]
  | append_singleton ys y ih =>
      rw [← List.append_assoc, evaluates_index, evaluates_index]
      simp only [ih]

/-- Where a chain of indices evaluates, its base does. -/
theorem base_of_evaluates_subscript (h : Evaluates env (.subscript base indices) c v c₁) :
    ∃ u c', Evaluates env base c u c' := by
  obtain ⟨u, c', hbase, -⟩ := Answers.of_bind (evaluates_iff_step.mp h)
  exact ⟨u, c', hbase⟩

/-- Where a chain of indices evaluates, so do its first indices. -/
theorem take_of_evaluates_subscript (h : Evaluates env (.subscript base indices) c v c₁) (j : Nat) :
    ∃ u c', Evaluates env (.subscript base (indices.take j)) c u c' := by
  rw [← List.take_append_drop j indices, evaluates_subscript_append] at h
  exact base_of_evaluates_subscript h

/-! ### Paths

`IndexPath` says what is read and in which context, `Linked` what hangs off what.  They
are apart because the first is settled index by index, while a link depends on whether
any value before it had to be kept.
-/

/--
Started in a context, the indices lead from the value of the base to `value 1`, `value 2`
and so on; `element j` is what is read out of `value j`, and `left j` the context that the
first `j` indices leave.  Nothing is said of the parents.
-/
structure IndexPath (env : Env) (base : Expr) (indices : List Expr) (c : Context)
    (value element : Nat → Value) (left : Nat → Context) : Prop where
  /-- The path starts at the value of the base. -/
  start : Evaluates env base c (value 0) (left 0)
  /-- Each index is evaluated after those before it, and its value read out of the value reached. -/
  read : ∀ j (hj : j < indices.length), ∃ key c', Evaluates env indices[j] (left j) key c' ∧
    (value j).subscript key c' = some (element j, left (j + 1))
  /-- The next value has the payload of the element. -/
  data : ∀ j < indices.length, (value (j + 1)).data = (element j).data
  /-- The next value is a scratch result if the element is. -/
  temporary : ∀ j < indices.length, (value (j + 1)).temporary = (element j).temporary

/-- The parents along a path: none is changed before the first value that must be kept. -/
structure Linked (value element : Nat → Value) (n : Nat) : Prop where
  /-- As long as no value must be kept, an element keeps the parent it was stored with. -/
  loose : ∀ j < n, (∀ i ≤ j, (value i).extendsLifetime = false) →
    (value (j + 1)).parent = (element j).parent
  /-- From a value that must be kept on, each value hangs off the one before it. -/
  kept : ∀ k < n, (value k).extendsLifetime = true →
    ∀ j, k ≤ j → j < n → (value (j + 1)).parent = some (value j)

variable {value element : Nat → Value} {left : Nat → Context} {n : Nat}

theorem Linked.hold (h : Linked value element n) {j : Nat} (hj : j < n) :
    (value (j + 1)).parent = ((value j).hold (element j)).parent := by
  rw [Value.parent_hold]
  by_cases hext : (value j).extendsLifetime = true
  · rw [if_pos hext]
    exact h.kept j hj hext j (Nat.le_refl j) hj
  · rw [if_neg hext]
    refine h.loose j hj fun i hi => ?_
    -- Had an earlier value to be kept, this one would hang off the one before it.
    by_contra hkept
    rw [Bool.not_eq_false] at hkept
    rcases Nat.lt_or_eq_of_le hi with hlt | rfl
    · obtain ⟨m, rfl⟩ : ∃ m, j = m + 1 := ⟨j - 1, by omega⟩
      exact hext
        (Value.extendsLifetime_of_parent (h.kept i (by omega) hkept m (by omega) (by omega)))
    · exact hext hkept

theorem Linked.of_hold (h : ∀ j < n, value (j + 1) = (value j).hold (element j)) :
    Linked value element n where
  loose := by
    intro j hj hnone
    rw [h j hj, Value.parent_hold, hnone j (Nat.le_refl j)]
    rfl
  kept := by
    intro k hk hext j hkj hj
    have hall : (value j).extendsLifetime = true := by
      induction j, hkj using Nat.le_induction with
      | base => exact hext
      | succ j hkj ih =>
          refine Value.extendsLifetime_of_parent (p := value j) ?_
          rw [h j (by omega), Value.parent_hold, if_pos (ih (by omega))]
    rw [h j hj, Value.parent_hold, if_pos hall]

/-- The values that hang together are the parents of the last one, the nearest first. -/
theorem Linked.parents (h : Linked value element n) {k : Nat} (hk : k < n)
    (hext : (value k).extendsLifetime = true) :
    (value n).parents = (List.range' k (n - k)).reverse.map value ++ (value k).parents := by
  have hupTo : ∀ m, k ≤ m → m ≤ n →
      (value m).parents = (List.range' k (m - k)).reverse.map value ++ (value k).parents := by
    intro m hkm
    induction m, hkm using Nat.le_induction with
    | base => intro _; simp
    | succ m hkm ih =>
        intro hm
        have hparent := h.kept k hk hext m hkm (by omega)
        have hrange : List.range' k (m + 1 - k) = List.range' k (m - k) ++ [m] := by
          rw [show m + 1 - k = (m - k) + 1 by omega, List.range'_1_concat,
            show k + (m - k) = m by omega]
        rw [Value.parents_of_parent hparent, ih (by omega), hrange, List.reverse_append]
        rfl
  exact hupTo n (Nat.le_of_lt hk) (Nat.le_refl n)

/-! ### A chain evaluates along its path

From an evaluation the path is found by taking all the chains of first indices, which
evaluate on the way.  From a path the evaluation is found by induction on how many
indices have been read.
-/

/-- Along a path, the first indices evaluate to the value they lead to. -/
theorem IndexPath.evaluates (hpath : IndexPath env base indices c value element left)
    (hlinked : Linked value element indices.length) {j : Nat} (hj : j ≤ indices.length) :
    Evaluates env (.subscript base (indices.take j)) c (value j) (left j) := by
  induction j with
  | zero => exact evaluates_subscript_nil.mpr hpath.start
  | succ j ih =>
      obtain ⟨key, c', hkey, hread⟩ := hpath.read j hj
      rw [← List.take_append_getElem hj]
      refine evaluates_index.mpr ⟨value j, left j, key, c', element j, ih (by omega), hkey, hread,
        ?_⟩
      refine Value.eq_of_parts ?_ ?_ (hlinked.hold hj)
      · rw [hpath.data j hj, Value.data_hold]
      · rw [hpath.temporary j hj, Value.temporary_hold]

/-- Where a chain of indices evaluates, its values form a path that is linked. -/
theorem exists_indexPath (h : Evaluates env (.subscript base indices) c v c₁) :
    ∃ value element left, IndexPath env base indices c value element left ∧
      Linked value element indices.length ∧ value indices.length = v ∧
        left indices.length = c₁ := by
  choose value left hfront using take_of_evaluates_subscript h
  have hstep : ∀ j, ∃ element, ∀ hj : j < indices.length, ∃ key c',
      Evaluates env indices[j] (left j) key c' ∧
        (value j).subscript key c' = some (element, left (j + 1)) ∧
        value (j + 1) = (value j).hold element := by
    intro j
    by_cases hj : j < indices.length
    · have hnext := hfront (j + 1)
      rw [← List.take_append_getElem hj] at hnext
      obtain ⟨cur, c', key, c'', element, hcur, hkey, hread, hv⟩ := evaluates_index.mp hnext
      obtain ⟨rfl, rfl⟩ := (hfront j).unique hcur
      exact ⟨element, fun _ => ⟨key, c'', hkey, hread, hv⟩⟩
    · exact ⟨.empty, fun h => absurd h hj⟩
  choose element hstep using hstep
  have hhold : ∀ j < indices.length, value (j + 1) = (value j).hold (element j) := by
    intro j hj
    obtain ⟨key, c', -, -, hv⟩ := hstep j hj
    exact hv
  have hlast := hfront indices.length
  rw [List.take_length] at hlast
  obtain ⟨hv, hc₁⟩ := hlast.unique h
  refine ⟨value, element, left, ⟨evaluates_subscript_nil.mp (hfront 0), ?_, ?_, ?_⟩,
    .of_hold hhold, hv, hc₁⟩
  · intro j hj
    obtain ⟨key, c', hkey, hread, -⟩ := hstep j hj
    exact ⟨key, c', hkey, hread⟩
  · intro j hj
    rw [hhold j hj, Value.data_hold]
  · intro j hj
    rw [hhold j hj, Value.temporary_hold]

/--
**A chain of indices keeps every value on its path from the first one that must be kept.**
It evaluates exactly along a path on which each value hangs off the one before it as soon
as a value must be kept, while before that an element keeps its own parent; the parents of
the result are then these values, the last one first, and the parents of the value the
links begin at.  Indices may be given in one chain or in a chain on top of another.
-/
theorem chains_keep_their_path (env : Env) (base : Expr) (c : Context) :
    (∀ (indices : List Expr) v c₁, Evaluates env (.subscript base indices) c v c₁ ↔
      ∃ value element left, IndexPath env base indices c value element left ∧
        value indices.length = v ∧ left indices.length = c₁ ∧
        Linked value element indices.length ∧
        ∀ k < indices.length, (value k).extendsLifetime = true →
          v.parents = (List.range' k (indices.length - k)).reverse.map value ++ (value k).parents) ∧
    ∀ (xs ys : List Expr) v c₁, Evaluates env (.subscript base (xs ++ ys)) c v c₁ ↔
      Evaluates env (.subscript (.subscript base xs) ys) c v c₁ := by
  refine ⟨fun indices v c₁ => ⟨fun h => ?_, fun h => ?_⟩,
    fun xs ys v c₁ => evaluates_subscript_append⟩
  · obtain ⟨value, element, left, hpath, hlinked, rfl, hc₁⟩ := exists_indexPath h
    exact ⟨value, element, left, hpath, rfl, hc₁, hlinked, fun k => hlinked.parents⟩
  · obtain ⟨value, element, left, hpath, rfl, rfl, hlinked, -⟩ := h
    have hrun := hpath.evaluates hlinked (Nat.le_refl indices.length)
    rwa [List.take_length] at hrun

/-- A pair inside a pair. -/
def nestedPair : Expr :=
  .tuple [.tuple [.const (.ofInt 1), .const (.ofText (.narrow "kept"))], .const (.ofInt 3)]

/-- The last element of the inner pair, and an index that misses: both keep the two pairs. -/
theorem chains_keep_their_path_nestedPair :
    (∃ v c₁ inner outer, Evaluates ⟨.narrow, .empty⟩
        (.subscript nestedPair [.const (.ofInt 0), .const (.ofInt (-1))]) (.ofGlobals .nil) v c₁ ∧
      v.data = .text (.narrow "kept") ∧ v.parents = [inner, outer]) ∧
    ∃ v c₁ inner outer, Evaluates ⟨.narrow, .empty⟩
        (.subscript nestedPair [.const (.ofInt 0), .const (.ofInt 7)]) (.ofGlobals .nil) v c₁ ∧
      v.data = .empty ∧ v.parents = [inner, outer] := by
  have hparents : ∀ index v c₁, Evaluates ⟨.narrow, .empty⟩
      (.subscript nestedPair [.const (.ofInt 0), index]) (.ofGlobals .nil) v c₁ →
      ∃ inner outer, v.parents = [inner, outer] := by
    intro index v c₁ hrun
    obtain ⟨value, element, left, hpath, -, -, -, hparents⟩ :=
      ((chains_keep_their_path ⟨.narrow, .empty⟩ nestedPair (.ofGlobals .nil)).1 _ v c₁).mp hrun
    obtain ⟨hbase, -⟩ := hpath.start.unique ⟨3, rfl⟩
    have hnone : (value 0).parents = [] := by
      rw [hbase]
      exact Value.parents_of _
    have hall := hparents 0 (Nat.succ_pos _) (by rw [hbase]; rfl)
    rw [hnone] at hall
    exact ⟨value 1, value 0, hall⟩
  refine ⟨?_, ?_⟩
  · obtain ⟨inner, outer, h⟩ := hparents (.const (.ofInt (-1))) _ _ ⟨4, rfl⟩
    exact ⟨_, _, inner, outer, ⟨4, rfl⟩, rfl, h⟩
  · obtain ⟨inner, outer, h⟩ := hparents (.const (.ofInt 7)) _ _ ⟨4, rfl⟩
    exact ⟨_, _, inner, outer, ⟨4, rfl⟩, rfl, h⟩

end TemplateExpr
