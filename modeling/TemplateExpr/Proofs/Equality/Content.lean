/-
Equality is having the same content.

The content of a value is what equality looks at: the code points of a text whatever its
width, the number a boolean or an integer is, the contents of the elements of a list
however it holds them, the keys of a map with the contents found for them.  Among plain
values two are equal exactly if they have the same content, which makes equality an
equivalence at once.  Truth, order and membership look at the content only, so none of
them tells equal values apart.

A plain value contains no double, which may differ from itself, no list with holes and no
host map, which may find values for keys it does not list.
-/
import TemplateExpr.Proofs.Equality.Holes
import TemplateExpr.Proofs.Rules
import TemplateExpr.Proofs.Search.Occurrence
import TemplateExpr.Proofs.Values.Recast

namespace TemplateExpr

open EvalM (Answers)

/-- What equality looks at in a value. -/
inductive Content where
  | empty
  | whole (i : Int64)
  | double (d : Float)
  | text (cs : List Char)
  | list (items : List Content)
  | map (keys : List String) (find? : String → Option Content)
  | function (id : Nat)
  | builtin (f : Builtin)

/-- The content of a payload that holds the contents of its values. -/
def Content.ofPayload : Payload Content → Content
  | .empty => .empty
  | .bool b => .whole (boolNumber b)
  | .int i => .whole i
  | .double d => .double d
  | .text t => .text t.chars
  | .list l => .list (l.itemsBy .whole)
  | .map m => .map m.keys m.get?
  | .function id => .function id
  | .builtin f => .builtin f

/-- What equality looks at in a value. -/
def Value.content : Value → Content := Value.fold fun data _ _ => .ofPayload data

def Payload.content (p : Payload Value) : Content := .ofPayload (p.mapHeld Value.content)

theorem Value.content_eq (v : Value) : v.content = v.data.content := by
  obtain ⟨data, temporary, parent⟩ := v
  exact Value.fold_mk _ data temporary parent

/-! ### Contents of payloads

A list is equal to another by its elements, however it holds them, so a range and the
list of its terms have one content.  A map is compared by its keys in order and by what
it finds for each.
-/

namespace Payload

theorem content_list (l : ListSource Value) :
    (list l).content = .list (l.items.map Value.content) :=
  congrArg Content.list (l.itemsBy_map Value.content fun i => Value.content_eq (.ofInt i))

theorem content_map (m : MapSource Value) :
    (map m).content = .map m.keys fun key => (m.get? key).map Value.content :=
  congrArg₂ Content.map (m.keys_map Value.content) (funext (m.get?_map Value.content))

end Payload

/-! ### Plain values

The three exceptions are real: a double need not equal itself, equality goes past the
end of the shorter list of elements when there are holes, and a host map may list no key
for a value it finds.  Everything else is plain, at any depth.
-/

/-- Whether a payload is no double, no list with holes and no host map. -/
def Payload.plain : Payload Value → Bool
  | .double _ => false
  | .list l => l.holes == 0
  | .map (.keyed _ _) => false
  | _ => true

/-- A value that contains no double, no list with holes and no host map. -/
def Value.Plain (v : Value) : Prop := v.everywhere (·.data.plain) = true

namespace Value.Plain

theorem plain {v : Value} (h : v.Plain) : v.data.plain = true := (Value.everywhere_iff.mp h).1

theorem held {v u : Value} (h : v.Plain) (hu : u ∈ v.data.held) : u.Plain :=
  (Value.everywhere_iff.mp h).2 u hu

theorem ofInt (i : Int64) : (Value.ofInt i).Plain :=
  Value.everywhere_iff.mpr ⟨rfl, by simp [Value.ofInt, Value.of, Payload.held]⟩

theorem items {v : Value} {l : ListSource Value} (h : v.Plain) (hv : v.data = .list l) :
    ∀ u ∈ l.items, u.Plain := by
  refine ListSource.forall_items ofInt ?_
  rw [← hv]
  exact fun u hu => h.held hu

theorem length_items {v : Value} {l : ListSource Value} (h : v.Plain) (hv : v.data = .list l) :
    l.items.length = l.length := by
  have hplain := h.plain
  rw [hv] at hplain
  have hholes : l.holes = 0 := by simpa [Payload.plain] using hplain
  have hsum := l.length_items_add_holes
  omega

theorem get? {v u : Value} {m : MapSource Value} {key : String} (h : v.Plain) (hv : v.data = .map m)
    (hu : m.get? key = some u) : u.Plain := by
  refine h.held ?_
  rw [hv]
  exact MapSource.held_of_get? hu

/-- A plain map finds values for the keys it lists and for no others. -/
theorem isSome_get?_iff {v : Value} {m : MapSource Value} (h : v.Plain) (hv : v.data = .map m)
    (key : String) : (m.get? key).isSome = true ↔ key ∈ m.keys := by
  have hplain := h.plain
  rw [hv] at hplain
  cases m with
  | owned entries => exact Dict.contains_iff_mem_keys
  | keyed keys entries => exact absurd hplain (by simp [Payload.plain])

end Value.Plain

/-! ### Equality is having the same content -/

/-- If elements are equal exactly by content, then so are lists, element by element. -/
theorem map_content_eq_iff {xs ys : List Value}
    (h : ∀ x ∈ xs, ∀ y ∈ ys, x.equal y = true ↔ x.content = y.content) :
    xs.map Value.content = ys.map Value.content ↔
      xs.length = ys.length ∧ ∀ p ∈ xs.zip ys, p.1.equal p.2 = true := by
  rw [← List.forall₂_eq_eq_eq, List.forall₂_map_left_iff, List.forall₂_map_right_iff,
    List.forall₂_iff_zip]
  refine and_congr_right fun _ => ?_
  constructor
  · intro hcontent p hp
    obtain ⟨hx, hy⟩ := List.of_mem_zip hp
    exact (h _ hx _ hy).mpr (hcontent hp)
  · intro hequal x y hp
    obtain ⟨hx, hy⟩ := List.of_mem_zip hp
    exact (h _ hx _ hy).mp (hequal _ hp)

theorem Payload.equal_map_iff {m n : MapSource Value} :
    (Payload.map m).equal (.map n) = true ↔
      m.keys = n.keys ∧ ∀ key ∈ m.keys, ∃ x y, m.get? key = some x ∧ n.get? key = some y ∧
        x.equal y = true := by
  show (m.keys == n.keys && m.keys.all fun key => m.valueEqual key (n.get? key)) = true ↔ _
  rw [Bool.and_eq_true, beq_iff_eq, List.all_eq_true]
  refine and_congr_right fun _ => forall₂_congr fun key _ => ?_
  rw [MapSource.valueEqual_eq]
  rcases m.get? key with _ | x
  · simp
  · rcases n.get? key with _ | y
    · simp
    · simp

/-- A whole number is equal to what is the same number. -/
theorem Payload.equal_iff_content_of_whole {p q : Payload Value} {i : Int64}
    (hp : p.whole? = some i) (hq : q.plain = true) : p.equal q = true ↔ p.content = q.content := by
  cases p with
  | bool b =>
      cases q with
      | double d => simp [plain] at hq
      | _ =>
          simp [equal, content, mapHeld, Content.ofPayload, sameNumber, operands?, whole?,
            toDouble?, Operands.equal]
  | int i =>
      cases q with
      | double d => simp [plain] at hq
      | _ =>
          simp [equal, content, mapHeld, Content.ofPayload, sameNumber, operands?, whole?,
            toDouble?, Operands.equal]
  | _ => simp [whole?] at hp

theorem Payload.equal_list_iff_content {l l' : ListSource Value} (hl : l.items.length = l.length)
    (hl' : l'.items.length = l'.length)
    (h : ∀ x ∈ l.items, ∀ y ∈ l'.items, x.equal y = true ↔ x.content = y.content) :
    (Payload.list l).equal (.list l') = true ↔
      (Payload.list l).content = (Payload.list l').content := by
  rw [equal_list_iff, ← hl, ← hl', ← map_content_eq_iff h, content_list, content_list,
    Content.list.injEq]

theorem Payload.equal_map_iff_content {m n : MapSource Value}
    (hm : ∀ key, (m.get? key).isSome = true ↔ key ∈ m.keys)
    (hn : ∀ key, (n.get? key).isSome = true ↔ key ∈ n.keys)
    (h : ∀ key x y, m.get? key = some x → n.get? key = some y →
      (x.equal y = true ↔ x.content = y.content)) :
    (Payload.map m).equal (.map n) = true ↔ (Payload.map m).content = (Payload.map n).content := by
  have hcontent : (Payload.map m).content = (Payload.map n).content ↔ m.keys = n.keys ∧
      ∀ key, (m.get? key).map Value.content = (n.get? key).map Value.content := by
    rw [content_map, content_map, Content.map.injEq, funext_iff]
  rw [hcontent, equal_map_iff]
  refine and_congr_right fun hkeys => ?_
  constructor
  · intro hequal key
    by_cases hkey : key ∈ m.keys
    · obtain ⟨x, y, hx, hy, hxy⟩ := hequal key hkey
      rw [hx, hy]
      exact congrArg some ((h key x y hx hy).mp hxy)
    · have hnone : m.get? key = none := by simpa using mt (hm key).mp hkey
      have hnone' : n.get? key = none := by simpa using mt (hn key).mp (hkeys ▸ hkey)
      rw [hnone, hnone']
  · intro hequal key hkey
    obtain ⟨x, hx⟩ := Option.isSome_iff_exists.mp ((hm key).mpr hkey)
    obtain ⟨y, hy⟩ := Option.isSome_iff_exists.mp ((hn key).mpr (hkeys ▸ hkey))
    have hxy := hequal key
    rw [hx, hy] at hxy
    exact ⟨x, y, hx, hy, (h key x y hx hy).mpr (Option.some.inj hxy)⟩

/-- Two plain values are equal exactly if they have the same content. -/
theorem Value.equal_iff_content {a b : Value} (ha : a.Plain) (hb : b.Plain) :
    a.equal b = true ↔ a.content = b.content := by
  induction a using Value.induct generalizing b with
  | h data temporary parent ih =>
      rw [equal_eq, content_eq, content_eq]
      show data.equal b.data = true ↔ data.content = b.data.content
      cases data with
      | int i => exact Payload.equal_iff_content_of_whole rfl hb.plain
      | bool b => exact Payload.equal_iff_content_of_whole rfl hb.plain
      | double d => exact absurd ha.plain (by simp [Payload.plain])
      | list l =>
          have hitems : ∀ x ∈ l.items, x.Plain → ∀ y : Value, y.Plain →
              (x.equal y = true ↔ x.content = y.content) := by
            -- a progression does not hold its elements, but they are whole numbers
            refine ListSource.forall_items ?_ fun x hx hplain y hy => ih x hx hplain hy
            intro i _ y hy
            rw [equal_eq, content_eq, y.content_eq]
            exact Payload.equal_iff_content_of_whole rfl hy.plain
          cases hdata : b.data with
          | list l' =>
              exact Payload.equal_list_iff_content (ha.length_items rfl) (hb.length_items hdata)
                fun x hx y hy => hitems x hx (ha.items rfl x hx) y (hb.items hdata y hy)
          | _ => simp [Payload.equal, Payload.content, Payload.mapHeld, Content.ofPayload,
              Payload.sameNumber, Payload.operands?, Payload.whole?, Payload.toDouble?]
      | map m =>
          cases hdata : b.data with
          | map n =>
              refine Payload.equal_map_iff_content (ha.isSome_get?_iff rfl)
                (hb.isSome_get?_iff hdata) ?_
              intro key x y hx hy
              exact ih x (MapSource.held_of_get? hx) (ha.get? rfl hx) (hb.get? hdata hy)
          | _ => simp [Payload.equal, Payload.content, Payload.mapHeld, Content.ofPayload,
              Payload.sameNumber, Payload.operands?, Payload.whole?, Payload.toDouble?]
      | _ =>
          cases b.data <;> simp [Payload.equal, Payload.content, Payload.mapHeld,
            Content.ofPayload, Payload.sameNumber, Payload.operands?, Payload.whole?,
            Payload.toDouble?]

/-! ### Truth, order and membership look at the content

The three are defined again on contents, and the definitions on values agree with these.
What factors through the content cannot tell equal values apart, with no further proof.
-/

namespace Content

def truthy : Content → Bool
  | .empty => false
  | .whole i => i != 0
  | .double d => d != 0.0
  | .text cs => !cs.isEmpty
  | .list items => !items.isEmpty
  | .map keys _ => !keys.isEmpty
  | .function _ => true
  | .builtin _ => true

def order? : Content → Content → Option Ordering
  | .text s, .text t => some (compare s t)
  | .whole i, .whole j => (Operands.ints i j).order?
  | _, _ => none

/-- Whether a content is among the elements of a list, the keys of a map or the parts of a text. -/
def Mem : Content → Content → Prop
  | x, .list items => x ∈ items
  | .text key, .map keys _ => String.ofList key ∈ keys
  | .text part, .text t => part <:+: t
  | _, _ => False

end Content

theorem Value.truthy_eq_content {v : Value} (hv : v.Plain) : v.truthy = v.content.truthy := by
  rw [content_eq]
  obtain ⟨data, temporary, parent⟩ := v
  cases data with
  | bool b => cases b <;> rfl
  | text t => exact congrArg (!·) t.isEmpty_eq
  | list l =>
      show (!(l.length == 0)) = (Payload.list l).content.truthy
      rw [Payload.content_list, ← hv.length_items rfl]
      cases l.items <;> rfl
  | map m =>
      show _ = (Payload.map m).content.truthy
      rw [Payload.content_map]
      rfl
  | _ => rfl

theorem Value.order?_eq_content {a b : Value} (ha : a.Plain) (hb : b.Plain) :
    a.order? b = a.content.order? b.content := by
  have hdouble := ha.plain
  have hdouble' := hb.plain
  rw [content_eq, content_eq]
  obtain ⟨data, temporary, parent⟩ := a
  obtain ⟨data', temporary', parent'⟩ := b
  cases data with
  | double d => simp [Payload.plain] at hdouble
  | _ =>
      cases data' with
      | double d => simp [Payload.plain] at hdouble'
      | _ => rfl

/-- A plain value is in a plain sequence exactly if its content is in that of the sequence. -/
theorem Value.memberOf_iff_content {v seq : Value} (hv : v.Plain) (hseq : seq.Plain) :
    v.memberOf seq = true ↔ v.content.Mem seq.content := by
  obtain ⟨data, temporary, parent⟩ := seq
  rw [content_eq ⟨data, temporary, parent⟩]
  show _ ↔ v.content.Mem data.content
  cases data with
  | list l =>
      show (l.any fun item => item.equal v) = true ↔ _
      rw [ListSource.any_eq, List.any_eq_true, Payload.content_list]
      show _ ↔ v.content ∈ _
      rw [List.mem_map]
      refine exists_congr fun item => and_congr_right fun hitem => ?_
      exact equal_iff_content (hseq.items rfl item hitem) hv
  | map m =>
      rw [content_eq, Payload.content_map]
      obtain ⟨data', temporary', parent'⟩ := v
      cases data' with
      | text t =>
          show m.hasKey t.toPlain = true ↔ String.ofList t.chars ∈ m.keys
          rw [t.toPlain_eq]
          exact hseq.isSome_get?_iff rfl _
      | _ => exact iff_of_false (by simp [memberOf, asText?]) (by
          simp [Payload.content, Payload.mapHeld, Content.ofPayload, Content.Mem])
  | text t =>
      rw [content_eq]
      obtain ⟨data', temporary', parent'⟩ := v
      cases data' with
      | text part => exact Search.occurs_iff
      | _ => exact iff_of_false (by simp [memberOf, asText?]) (by
          simp [Payload.content, Payload.mapHeld, Content.ofPayload, Content.Mem])
  | _ =>
      refine iff_of_false (by simp [memberOf]) ?_
      cases v.content <;> simp [Payload.content, Payload.mapHeld, Content.ofPayload, Content.Mem]

end TemplateExpr
