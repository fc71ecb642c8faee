/-
Literals and indices undo each other.

A tuple or a dictionary evaluates the expressions of its elements in the order in which
they are written, each of them once, and puts the values into a new list or map.  An index
that is a constant does nothing but read one of these values again: the payload and the mark
of a scratch result are those the element had when it was evaluated, and it hangs off the
container, because a new container holds its elements itself.  Which value it is can be told
from the values and the keys in a row alone.
-/
import TemplateExpr.Proofs.Positions
import TemplateExpr.Proofs.Dict
import TemplateExpr.Proofs.Rules
import TemplateExpr.Proofs.Values.Recast

namespace TemplateExpr

variable {env : Env} {base : Expr} {key v x : Value} {vs : List Value} {i : Int64}
  {t : Text} {c c₁ : Context}

/-! ### Which value is meant

An index or a key means the same whatever container its values end up in, so what it
means is said of the row of values alone: for an index by position from either end, for
a key by its last entry.
-/

/-- Of values in a row, the one that an integer means as an index; nothing outside of them. -/
inductive MeansElement (vs : List Value) (i : Int) : Value → Prop
  /-- The index counts from the front. -/
  | front {k : Nat} {x : Value} (hword : (vs.length : Int) < 2 ^ 63) (hi : i = k)
      (hx : vs[k]? = some x) : MeansElement vs i x
  /-- The index counts from the end. -/
  | back {k : Nat} {x : Value} (hword : (vs.length : Int) < 2 ^ 63) (hi : vs.length + i = k)
      (hneg : i < 0) (hx : vs[k]? = some x) : MeansElement vs i x
  /-- There is no such element, or there are more of them than a word can count. -/
  | outside (hout : i < -vs.length ∨ vs.length ≤ i ∨ 2 ^ 63 ≤ (vs.length : Int)) :
      MeansElement vs i .empty

/-- Of entries in a row, the value that a text means as a key: that of the last one so named. -/
inductive MeansEntry (entries : List (String × Value)) (key : List Char) : Value → Prop
  | last {before after : List (String × Value)} {k : String} {x : Value}
      (hsplit : entries = before ++ (k, x) :: after) (hkey : k.toList = key)
      (hlast : ∀ e ∈ after, e.1.toList ≠ key) : MeansEntry entries key x
  | absent (hnone : ∀ e ∈ entries, e.1.toList ≠ key) : MeansEntry entries key .empty

theorem meansElement_iff :
    MeansElement vs i.toInt x ↔ x = ((position? vs.length i).bind fun k => vs[k]?).getD .empty := by
  constructor
  · intro h
    cases h with
    | @front k _ hword hi hx =>
        have hlt := (List.getElem?_eq_some_iff.mp hx).1
        rw [position?_front hword (by omega) (by omega), Option.bind_some,
          show i.toInt.toNat = k by omega, hx, Option.getD_some]
    | @back k _ hword hi hneg hx =>
        have hlt := (List.getElem?_eq_some_iff.mp hx).1
        rw [position?_back hword (by omega) hneg, Option.bind_some,
          show (i.toInt + vs.length).toNat = k by omega, hx, Option.getD_some]
    | outside hout =>
        rw [position?_eq_none hout]
        rfl
  · rintro rfl
    by_cases hout : i.toInt < -vs.length ∨ vs.length ≤ i.toInt ∨ 2 ^ 63 ≤ (vs.length : Int)
    · rw [position?_eq_none hout]
      exact .outside hout
    · by_cases hneg : i.toInt < 0
      · have hlt : (i.toInt + vs.length).toNat < vs.length := by omega
        rw [position?_back (by omega) (by omega) hneg, Option.bind_some,
          List.getElem?_eq_getElem hlt, Option.getD_some]
        exact .back (by omega) (by omega) hneg (List.getElem?_eq_getElem hlt)
      · have hlt : i.toInt.toNat < vs.length := by omega
        rw [position?_front (by omega) (by omega) (by omega), Option.bind_some,
          List.getElem?_eq_getElem hlt, Option.getD_some]
        exact .front (by omega) (by omega) (List.getElem?_eq_getElem hlt)

theorem meansEntry_iff {entries : List (String × Value)} :
    MeansEntry entries t.chars x ↔ x = (Dict.get? t.toPlain (Dict.ofList entries)).getD .empty := by
  have hplain : ∀ k : String, k.toList = t.chars ↔ k = t.toPlain := by
    intro k
    rw [Text.toPlain_eq, String.ext_iff, String.toList_ofList]
  have hnotin : ∀ es : List (String × Value),
      (∀ e ∈ es, e.1.toList ≠ t.chars) ↔ t.toPlain ∉ es.map (·.1) := by
    intro es
    simp only [ne_eq, hplain, List.mem_map, not_exists, not_and]
  constructor
  · intro h
    cases h with
    | last hsplit hkey hlast =>
        obtain rfl := (hplain _).mp hkey
        rw [Dict.get?_ofList_eq_some_iff_last.mpr ⟨_, _, hsplit, (hnotin _).mp hlast⟩,
          Option.getD_some]
    | absent hnone =>
        rw [Dict.get?_ofList_eq_none_iff.mpr ((hnotin entries).mp hnone), Option.getD_none]
  · rintro rfl
    cases hread : Dict.get? t.toPlain (Dict.ofList entries) with
    | none => exact .absent ((hnotin entries).mpr (Dict.get?_ofList_eq_none_iff.mp hread))
    | some x =>
        obtain ⟨before, after, hsplit, hafter⟩ := Dict.get?_ofList_eq_some_iff_last.mp hread
        exact .last hsplit ((hplain _).mpr rfl) ((hnotin after).mpr hafter)

/-! ### Reading a new container -/

/-- An index that is a constant does nothing but read. -/
theorem evaluates_subscript_const :
    Evaluates env (.subscript base [.const key]) c v c₁ ↔
      ∃ cur c', Evaluates env base c cur c' ∧ v = cur.read key ∧
        c₁ = if (cur.reading key).2 then c'.keep (cur.reading key).1.data else c' := by
  rw [← List.nil_append [Expr.const key], evaluates_subscript_snoc]
  simp only [evaluates_subscript_nil, evaluates_const]
  constructor
  · intro h
    obtain ⟨cur, c', _, _, hcur, ⟨rfl, rfl⟩, hv, hc₁⟩ := h
    exact ⟨cur, _, hcur, hv, hc₁⟩
  · intro h
    obtain ⟨cur, c', hcur, hv, hc₁⟩ := h
    exact ⟨cur, c', key, c', hcur, ⟨rfl, rfl⟩, hv, hc₁⟩

/-- A value read out of another one that it hangs off. -/
def Value.outOf (x container : Value) : Value := ⟨x.data, x.temporary, some container⟩

theorem Value.read_list (hkey : key.data = .int i) :
    (of (.list (.owned vs))).read key =
      (((position? vs.length i).bind fun k => vs[k]?).getD .empty).outOf
        (of (.list (.owned vs))) := by
  unfold read reading asInt?
  rw [hkey]
  rfl

theorem Value.read_map {entries : Dict Value} (hkey : key.data = .text t) :
    (of (.map (.owned entries))).read key =
      ((Dict.get? t.toPlain entries).getD .empty).outOf (of (.map (.owned entries))) := by
  unfold read reading asText?
  rw [hkey]
  rfl

/-! ### Literals and indices

The container is new, so it must be kept and the value read out of it hangs off it.
That is the one mark that the value does not share with the element as it was evaluated.
-/

theorem evaluates_tuple_subscript {items : List Expr} (hkey : key.data = .int i) :
    Evaluates env (.subscript (.tuple items) [.const key]) c v c₁ ↔
      ∃ vs c' x, EvaluatesEach env items c vs c' ∧ MeansElement vs i.toInt x ∧
        v = x.outOf (.of (.list (.owned vs))) ∧ c₁ = c'.keep (.list (.owned vs)) := by
  rw [evaluates_subscript_const]
  simp only [evaluates_tuple, meansElement_iff]
  constructor
  · intro h
    obtain ⟨_, _, ⟨vs, c', hvs, rfl, rfl⟩, rfl, rfl⟩ := h
    exact ⟨vs, c', _, hvs, rfl, Value.read_list hkey, rfl⟩
  · intro h
    obtain ⟨vs, c', _, hvs, rfl, rfl, rfl⟩ := h
    exact ⟨_, _, ⟨vs, c', hvs, rfl, rfl⟩, (Value.read_list hkey).symm, rfl⟩

theorem evaluates_dict_subscript {entries : List (String × Expr)} (hkey : key.data = .text t) :
    Evaluates env (.subscript (.dict entries) [.const key]) c v c₁ ↔
      ∃ vs c' x, EvaluatesEach env (entries.map (·.2)) c vs c' ∧
        MeansEntry ((entries.map (·.1)).zip vs) t.chars x ∧
        v = x.outOf (.of (.map (.owned (Dict.ofList ((entries.map (·.1)).zip vs))))) ∧
        c₁ = c'.keep (.map (.owned (Dict.ofList ((entries.map (·.1)).zip vs)))) := by
  rw [evaluates_subscript_const]
  simp only [evaluates_dict, meansEntry_iff]
  constructor
  · intro h
    obtain ⟨_, _, ⟨vs, c', hvs, rfl, rfl⟩, rfl, rfl⟩ := h
    exact ⟨vs, c', _, hvs, rfl, Value.read_map hkey, rfl⟩
  · intro h
    obtain ⟨vs, c', _, hvs, rfl, rfl, rfl⟩ := h
    exact ⟨_, _, ⟨vs, c', hvs, rfl, rfl⟩, (Value.read_map hkey).symm, rfl⟩

/--
**A constant index reads an element of a literal as it was evaluated.**  The expressions of
the elements evaluate one after the other, also those whose value is read by nobody, and the
container takes one slot more.  A tuple is read at the position the integer means, a
dictionary at the last entry of the key; what is read has the payload and the mark of the
element, or is empty where there is none, and hangs off the container.
-/
theorem constructors_are_read_back (env : Env) (key v : Value) (c c₁ : Context) :
    (∀ (items : List Expr) (i : Int64), key.data = .int i →
      (Evaluates env (.subscript (.tuple items) [.const key]) c v c₁ ↔
        ∃ vs c' x, EvaluatesEach env items c vs c' ∧ MeansElement vs i.toInt x ∧
          v = x.outOf (.of (.list (.owned vs))) ∧
          c₁ = c'.keep (.list (.owned vs)) ∧ c₁.pool.size = c'.pool.size + 1)) ∧
    ∀ (entries : List (String × Expr)) (t : Text), key.data = .text t →
      (Evaluates env (.subscript (.dict entries) [.const key]) c v c₁ ↔
        ∃ vs c' x es, EvaluatesEach env (entries.map (·.2)) c vs c' ∧
          es = (entries.map (·.1)).zip vs ∧ MeansEntry es t.chars x ∧
          v = x.outOf (.of (.map (.owned (Dict.ofList es)))) ∧
          c₁ = c'.keep (.map (.owned (Dict.ofList es))) ∧ c₁.pool.size = c'.pool.size + 1) := by
  refine ⟨fun items i hkey => ?_, fun entries t hkey => ?_⟩
  · rw [evaluates_tuple_subscript hkey]
    constructor
    · intro h
      obtain ⟨vs, c', x, hvs, hx, hv, rfl⟩ := h
      exact ⟨vs, c', x, hvs, hx, hv, rfl, c'.size_keep rfl⟩
    · intro h
      obtain ⟨vs, c', x, hvs, hx, hv, hc₁, -⟩ := h
      exact ⟨vs, c', x, hvs, hx, hv, hc₁⟩
  · rw [evaluates_dict_subscript hkey]
    constructor
    · intro h
      obtain ⟨vs, c', x, hvs, hx, hv, rfl⟩ := h
      exact ⟨vs, c', x, _, hvs, rfl, hx, hv, rfl, c'.size_keep rfl⟩
    · intro h
      obtain ⟨vs, c', x, _, hvs, rfl, hx, hv, hc₁, -⟩ := h
      exact ⟨vs, c', x, hvs, hx, hv, hc₁⟩

/-- The negation of a constant, which is a scratch result. -/
def minus (i : Int64) : Expr := .unary .neg (.const (.ofInt i))

/-- A library whose only function notes its call and answers one. -/
def noting : Env := ⟨.narrow, ⟨#[⟨"noted", .user, .answer (.ofInt 1)⟩]⟩⟩

/-- The last element of a pair, and the last of two entries of a key, the first of which calls. -/
theorem constructors_are_read_back_overwritten :
    (∃ v c₁, Evaluates noting
      (.subscript (.tuple [.const (.ofInt 7), minus 2]) [.const (.ofInt (-1))])
        (.ofGlobals .nil) v c₁ ∧
      v.data = .int (-2) ∧ v.temporary = true ∧ v.parent.isSome = true ∧ c₁.pool.size = 1) ∧
    ∃ v c₁, Evaluates noting (.subscript
          (.dict [("a", .call (.const (.of (.function 0))) .none), ("b", minus 2), ("a", minus 3)])
          [.const (.ofText (.wide ['a']))]) (.ofGlobals .nil) v c₁ ∧
      v.data = .int (-3) ∧ v.temporary = true ∧ v.parent.isSome = true ∧ c₁.pool.size = 1 ∧
      c₁.calls = #["noted"] := by
  have hconst : ∀ i c, Evaluates noting (.const (.ofInt i)) c (.ofInt i) c :=
    fun _ _ => evaluates_const.mpr ⟨rfl, rfl⟩
  have hminus : ∀ i c, Evaluates noting (minus i) c (Value.ofInt (-i)).asTemporary c :=
    fun i c => evaluates_unary.mpr ⟨.ofInt i, hconst i c, rfl⟩
  have hcall : Evaluates noting (.call (.const (.of (.function 0))) .none) (.ofGlobals .nil)
      (.ofInt 1) { Context.ofGlobals .nil with calls := #["noted"] } := ⟨2, rfl⟩
  refine ⟨?_, ?_⟩
  · have hitems := EvaluatesEach.cons (hconst 7 (.ofGlobals .nil)) (.cons (hminus 2 _) .nil)
    have hlast : MeansElement [.ofInt 7, (Value.ofInt (-2)).asTemporary] (-1) _ :=
      .back (k := 1) (by decide) (by decide) (by decide) rfl
    exact ⟨_, _, ((constructors_are_read_back _ _ _ _ _).1 _ (-1) rfl).mpr
      ⟨_, _, _, hitems, hlast, rfl, rfl, rfl⟩, rfl, rfl, rfl, rfl⟩
  · have hentries := EvaluatesEach.cons hcall (.cons (hminus 2 _) (.cons (hminus 3 _) .nil))
    have hsplit : [("a", .ofInt 1), ("b", (Value.ofInt (-2)).asTemporary),
        ("a", (Value.ofInt (-3)).asTemporary)] =
        [("a", .ofInt 1), ("b", (Value.ofInt (-2)).asTemporary)] ++
          ("a", (Value.ofInt (-3)).asTemporary) :: [] := rfl
    have hlast := MeansEntry.last hsplit (show "a".toList = ['a'] by decide) nofun
    exact ⟨_, _, ((constructors_are_read_back _ _ _ _ _).2 _ (.wide ['a']) rfl).mpr
      ⟨_, _, _, _, hentries, rfl, hlast, rfl, rfl, rfl⟩, rfl, rfl, rfl, rfl, rfl⟩

end TemplateExpr
