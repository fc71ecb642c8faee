/-
Values in another representation.

A recast goes through a value and everything inside it.  It may change the width of
texts, and it may change marks, but it keeps every code point and every other payload.
Hardly an operation can tell: what is asked of a value is what was asked before, and
what an operation makes of recast operands is what it makes of the operands, recast.
Only where texts are joined does it matter that their widths were the same before if
they are the same now.

Writing and comparing go through whole values, so these two are inductions over what a
value holds; everything else is read off its definition.

Comparing two recast values is the hard case.  Both are changed, while the induction goes
through one of them, so the statement has to be about every second value.
-/
import TemplateExpr.Proofs.Render.Append
import TemplateExpr.Proofs.Values.Fold
import TemplateExpr.Proofs.Values.Held
import TemplateExpr.Proofs.Values.Reuse

namespace TemplateExpr

/-! ### Containers of recast values

A changed container has as many positions as before and the same keys, and finds at each
of them the changed value.  A progression holds no values and computes integers instead,
so the function has to leave integers alone.
-/

namespace ListSource

variable (f : Value → Value) (l : ListSource Value)

@[simp] theorem length_map : (l.map f).length = l.length := by
  cases l with
  | owned items => exact List.length_map f
  | progression count first step => rfl
  | sparse slots => exact List.length_map (Option.map f)

@[simp] theorem isEmpty_map : (l.map f).isEmpty = l.isEmpty := by
  unfold isEmpty
  rw [length_map]

variable {f} (hint : ∀ i, f (.ofInt i) = .ofInt i)

include hint

theorem get?_map (i : Nat) : (l.map f).get? i = (l.get? i).map f := by
  cases l with
  | owned items => exact List.getElem?_map
  | progression count first step =>
      unfold map get?
      dsimp only
      by_cases h : i < count
      · rw [if_pos h, Option.map_some, hint]
      · rw [if_neg h, Option.map_none]
  | sparse slots =>
      simp only [map, get?, List.getElem?_map]
      cases slots[i]? <;> rfl

theorem items_map : (l.map f).items = l.items.map f := by
  rw [items_eq, itemsBy_map f l hint]

end ListSource

theorem MapSource.valueEqual_eq (key : String) (m : MapSource Value) (y : Option Value) :
    m.valueEqual key y = (m.get? key).any fun x => y.any x.equal := by
  have hentries : ∀ {bound : Option String} (entries : Dict Value bound),
      Value.entryEqual key entries y = (Dict.get? key entries).any fun x => y.any x.equal := by
    intro bound entries
    induction entries with
    | nil => rfl
    | cons k x above entries ih =>
        unfold Value.entryEqual
        rw [Dict.get?_cons]
        by_cases h : k = key
        · rw [if_pos h, if_pos h]
          cases y <;> rfl
        · rw [if_neg h, if_neg h]
          exact ih
  cases m <;> exact hentries _

/-! ### Texts in another width -/

/-- A text in the width that `width` gives for its own. -/
def Text.recast (width : CharWidth → CharWidth) (t : Text) : Text := t.toWidth (width t.width)

namespace Text

variable (width : CharWidth → CharWidth) (t : Text)

@[simp] theorem chars_recast : (t.recast width).chars = t.chars := chars_toWidth t _

@[simp] theorem width_recast : (t.recast width).width = width t.width := width_toWidth t _

theorem recast_id : t.recast id = t := ext_chars (by simp) (by simp)

theorem recast_mapChars (f : List Char → List Char) :
    (t.mapChars f).recast width = (t.recast width).mapChars f :=
  ext_chars (by simp) (by simp)

theorem index?_recast (i : Int64) :
    (t.recast width).index? i = (t.index? i).map (Text.recast width) := by
  unfold index?
  rw [length_eq, length_eq, chars_recast]
  cases position? t.chars.length i with
  | none => rfl
  | some n =>
      rw [Option.bind_some, Option.bind_some]
      cases t.chars[n]? with
      | none => rfl
      | some ch => exact congrArg some (ext_chars (by simp) (by simp))

end Text

/-! ### Recasts

Two functions on values are recasts: one takes the marks off, the other puts texts into
a given width.  What they share is all that the following sections use, so a recast is a
structure, and everything it commutes with is proved for both at once.
-/

namespace Payload

/-- Applies a function to the text a payload is; any other payload is left alone. -/
def mapText {α : Type} (g : Text → Text) : Payload α → Payload α
  | .text t => .text (g t)
  | data => data

/-- A payload with its text in another width and the values it holds changed. -/
def recast (width : CharWidth → CharWidth) (f : Value → Value) (data : Payload Value) :
    Payload Value :=
  (data.mapHeld f).mapText (Text.recast width)

theorem recast_id (f : Value → Value) (data : Payload Value) :
    data.recast id f = data.mapHeld f := by
  cases data with
  | text t => exact congrArg text t.recast_id
  | _ => rfl

theorem recast_of_slot? {width : CharWidth → CharWidth} {f : Value → Value} {d : Payload Value}
    (h : d.slot? = none) : d.recast width f = d := by
  cases d with
  | text t => exact absurd h (by simp [slot?])
  | list l => exact absurd h (by simp [slot?])
  | map m => exact absurd h (by simp [slot?])
  | _ => rfl

end Payload

/-- A change of the representation of values: of the width of texts, and of marks. -/
structure Recast where
  width : CharWidth → CharWidth
  value : Value → Value
  /-- The payload changes in the width of texts and in the values it holds. -/
  data_value : ∀ v, (value v).data = v.data.recast width value
  /-- No marks are put where there were none. -/
  value_of : ∀ d, value (.of d) = .of (d.recast width value)

namespace Recast

variable (r : Recast)

/-- The text of a value, recast. -/
abbrev text (t : Text) : Text := t.recast r.width

/-- The payload of a value, recast. -/
abbrev payload (d : Payload Value) : Payload Value := d.recast r.width r.value

theorem ofInt (i : Int64) : r.value (.ofInt i) = .ofInt i := r.value_of (.int i)

/-! ### What a value is -/

section

variable (v : Value)

theorem isEmpty : (r.value v).isEmpty = v.isEmpty := by
  unfold Value.isEmpty
  rw [r.data_value]
  cases v.data <;> rfl

theorem truthy : (r.value v).truthy = v.truthy := by
  unfold Value.truthy
  rw [r.data_value]
  cases v.data with
  | text t => exact congrArg (!·) (by rw [Text.isEmpty_eq, Text.chars_recast, ← Text.isEmpty_eq])
  | list l => exact congrArg (!·) (l.isEmpty_map r.value)
  | map m => exact congrArg (!·) (m.isEmpty_map r.value)
  | _ => rfl

theorem toInt (default : Int64) : (r.value v).toInt default = v.toInt default := by
  unfold Value.toInt
  rw [r.data_value]
  cases v.data with
  | text t => exact congrArg (Option.getD · default) (by unfold Text.toInt?; rw [Text.chars_recast])
  | _ => rfl

theorem asInt? : (r.value v).asInt? = v.asInt? := by
  unfold Value.asInt?
  rw [r.data_value]
  cases v.data <;> rfl

theorem asText? : (r.value v).asText? = v.asText?.map r.text := by
  unfold Value.asText?
  rw [r.data_value]
  cases v.data <;> rfl

theorem asFunction? : (r.value v).asFunction? = v.asFunction? := by
  unfold Value.asFunction?
  rw [r.data_value]
  cases v.data <;> rfl

theorem asBuiltin? : (r.value v).asBuiltin? = v.asBuiltin? := by
  unfold Value.asBuiltin?
  rw [r.data_value]
  cases v.data <;> rfl

theorem asMap? : (r.value v).asMap? = v.asMap?.map (MapSource.map r.value) := by
  unfold Value.asMap?
  rw [r.data_value]
  cases v.data <;> rfl

theorem argChars : (r.value v).argChars = v.argChars := by
  unfold Value.argChars
  rw [r.asText?]
  cases v.asText? with
  | none => rfl
  | some t => exact t.chars_recast r.width

theorem isSome_slot? : (r.value v).data.slot?.isSome = v.data.slot?.isSome := by
  rw [r.data_value]
  cases v.data <;> rfl

end

/-! ### Writing

What stands inside a container is written by its code points, in whatever width it is
kept, so a value and its recast have one text.  The text goes through everything a value
holds, hence the induction.
-/

theorem written (v : Value) : ∀ nested, (r.value v).written nested = v.written nested := by
  induction v using Value.induct with
  | h data temporary parent ih =>
      intro nested
      have hdata : (r.value ⟨data, temporary, parent⟩).written nested
          = (r.payload data).written nested := by
        rw [← show (r.value ⟨data, temporary, parent⟩).data = r.payload data from r.data_value _]
        cases r.value ⟨data, temporary, parent⟩
        rfl
      rw [hdata]
      cases data with
      | text t =>
          show (if nested then quoteMarks (r.text t).toPlain else (r.text t).toPlain) = _
          rw [Text.toPlain_eq, Text.chars_recast, ← Text.toPlain_eq]
          rfl
      | list l =>
          have hitems := ListSource.forall_items (fun i nested => by rw [r.ofInt]) ih
          have hmap : l.items.map ((·.written true) ∘ r.value) = l.items.map (·.written true) :=
            List.map_congr_left fun v hv => hitems v hv true
          show "[" ++ ", ".intercalate (l.map r.value).writtenItems ++ "]"
            = "[" ++ ", ".intercalate l.writtenItems ++ "]"
          rw [ListSource.writtenItems_eq, ListSource.writtenItems_eq,
            ListSource.items_map l r.ofInt, List.map_map, hmap]
      | map m =>
          have hentry : ∀ key, (m.map r.value).writtenValue key = m.writtenValue key := by
            intro key
            rw [MapSource.writtenValue_eq, MapSource.writtenValue_eq, MapSource.get?_map]
            cases hget : m.get? key with
            | none => rfl
            | some v => exact ih v (MapSource.held_of_get? hget) true
          show _ ++ ", ".intercalate ((m.map r.value).keys.map fun key =>
              quoteMarks key ++ ": " ++ MapSource.writtenValue key (m.map r.value)) ++ _ = _
          simp only [MapSource.keys_map, hentry]
          rfl
      | _ => rfl

/-- In a given width, a recast value is written as the value is. -/
theorem toText (v : Value) (w : CharWidth) : (r.value v).toText w = v.toText w := by
  have hwritten := r.written v false
  unfold Value.toText
  rw [r.data_value, hwritten]
  cases v.data with
  | text t =>
      show (r.text t).toWidth w = t.toWidth w
      exact Text.ext_chars (by simp) (by simp)
  | _ => rfl

theorem toOwnText (v : Value) (w : CharWidth) :
    (r.value v).toOwnText (r.width w) = r.text (v.toOwnText w) := by
  have htext := r.toText v (r.width w)
  unfold Value.toOwnText
  rw [r.data_value, htext]
  have hwide : v.toText (r.width w) = r.text (v.toText w) :=
    Text.ext_chars (by simp) (by simp [Value.chars_toText])
  cases v.data with
  | text t => rfl
  | _ => exact hwide

/-! ### Comparing

Equality goes through whole values as writing does, and two values at a time.  Order and
membership ask it, or look at the code points of a text.
-/

private theorem all_zip_congr {xs ys : List Value} {f g : Value → Value → Bool}
    (h : ∀ x ∈ xs, ∀ y, f x y = g x y) :
    ((xs.zip ys).all fun p => f p.1 p.2) = (xs.zip ys).all fun p => g p.1 p.2 := by
  induction xs generalizing ys with
  | nil => rfl
  | cons x xs ih =>
      cases ys with
      | nil => rfl
      | cons y ys =>
          rw [List.zip_cons_cons, List.all_cons, List.all_cons, h x List.mem_cons_self y,
            ih fun x hx => h x (List.mem_cons_of_mem _ hx)]

theorem operands? (p q : Payload Value) :
    (r.payload p).operands? (r.payload q) = p.operands? q := by
  cases p <;> cases q <;> rfl

private theorem ofInt_equal (i : Int64) (b : Value) :
    (r.value (.ofInt i)).equal (r.value b) = (Value.ofInt i).equal b := by
  rw [r.ofInt, Value.equal_ofInt, Value.equal_ofInt, r.data_value]
  unfold Payload.sameNumber
  rw [← r.operands? (.int i) b.data]
  rfl

private theorem lists_equal {l l' : ListSource Value}
    (h : ∀ a ∈ (Payload.list l).held, ∀ b : Value, (r.value a).equal (r.value b) = a.equal b) :
    (r.payload (.list l)).equal (r.payload (.list l')) = (Payload.list l).equal (.list l') := by
  have hitems := ListSource.forall_items r.ofInt_equal h
  show ((l.map r.value).length == (l'.map r.value).length &&
      (l.map r.value).itemsEqual (l'.map r.value))
    = (l.length == l'.length && l.itemsEqual l')
  rw [ListSource.length_map, ListSource.length_map]
  by_cases hlen : l.length = l'.length
  · have hlen' : (l.map r.value).length = (l'.map r.value).length := by simp [hlen]
    rw [ListSource.itemsEqual_eq _ _ hlen, ListSource.itemsEqual_eq _ _ hlen',
      ListSource.items_map l r.ofInt, ListSource.items_map l' r.ofInt, List.zip_map, List.all_map]
    exact congrArg _ (all_zip_congr hitems)
  · rw [beq_false_of_ne hlen]
    rfl

private theorem maps_equal {m m' : MapSource Value}
    (h : ∀ a ∈ (Payload.map m).held, ∀ b : Value, (r.value a).equal (r.value b) = a.equal b) :
    (r.payload (.map m)).equal (r.payload (.map m')) = (Payload.map m).equal (.map m') := by
  have hentry : ∀ key, (m.map r.value).valueEqual key ((m'.map r.value).get? key)
      = m.valueEqual key (m'.get? key) := by
    intro key
    rw [MapSource.valueEqual_eq, MapSource.valueEqual_eq, MapSource.get?_map, MapSource.get?_map]
    cases hget : m.get? key with
    | none => rfl
    | some a =>
        cases m'.get? key with
        | none => rfl
        | some b => exact h a (MapSource.held_of_get? hget) b
  show ((m.map r.value).keys == (m'.map r.value).keys && (m.map r.value).keys.all fun key =>
      (m.map r.value).valueEqual key ((m'.map r.value).get? key))
    = (m.keys == m'.keys && m.keys.all fun key => m.valueEqual key (m'.get? key))
  simp only [MapSource.keys_map, hentry]

theorem equal (a : Value) : ∀ b : Value, (r.value a).equal (r.value b) = a.equal b := by
  have hequal : ∀ a b : Value, a.equal b = a.data.equal b.data := by
    intro a b
    cases a
    rfl
  induction a using Value.induct with
  | h data temporary parent ih =>
      intro b
      rw [hequal, hequal, r.data_value, r.data_value]
      cases data with
      | list l =>
          cases b.data with
          | list l' => exact r.lists_equal ih
          | _ => rfl
      | map m =>
          cases b.data with
          | map m' => exact r.maps_equal ih
          | _ => rfl
      | text s =>
          cases b.data with
          | text t =>
              show ((r.text s).chars == (r.text t).chars) = _
              rw [Text.chars_recast, Text.chars_recast]
              rfl
          | _ => rfl
      | _ => cases b.data <;> rfl

theorem memberOf (v seq : Value) : (r.value v).memberOf (r.value seq) = v.memberOf seq := by
  unfold Value.memberOf
  rw [r.data_value, r.asText?]
  cases seq.data with
  | list l =>
      show ((l.map r.value).any fun item => item.equal (r.value v)) = l.any fun item => item.equal v
      have hequal :
          ((fun item : Value => item.equal (r.value v)) ∘ r.value) = fun item => item.equal v := by
        funext item
        exact r.equal item v
      rw [ListSource.any_eq, ListSource.any_eq, ListSource.items_map l r.ofInt,
        List.any_map, hequal]
  | map m =>
      show ((v.asText?.map r.text).any fun key => (m.map r.value).hasKey key.toPlain) = _
      simp only [Option.any_map, MapSource.hasKey_map, Text.toPlain_eq, Text.chars_recast]
  | text t =>
      show ((v.asText?.map r.text).any fun part => Search.occurs part.chars (r.text t).chars) = _
      simp only [Option.any_map, Text.chars_recast]
  | _ => rfl

theorem order? (a b : Value) : (r.value a).order? (r.value b) = a.order? b := by
  unfold Value.order?
  rw [r.data_value, r.data_value]
  cases a.data with
  | text s =>
      cases b.data with
      | text t =>
          show some (compare (r.text s).chars (r.text t).chars) = _
          rw [Text.chars_recast, Text.chars_recast]
      | _ => rfl
  | _ => cases b.data <;> rfl

/-! ### Operators

Only a sum can join texts, and it refuses texts of different widths.  If a recast gives
one width to texts that had two, a sum that was refused is not refused any more.
`Joins` rules this out for a pair of texts; no other operator looks at a width.
-/

/-- An operator on numbers sees the same numbers, and its result has no text and holds no values. -/
theorem numeric {f : Operands → Payload Value} (hf : ∀ o, (f o).slot? = none)
    (p q : Payload Value) :
    r.payload (Payload.numeric f p q) = Payload.numeric f (r.payload p) (r.payload q) := by
  unfold Payload.numeric
  rw [r.operands?]
  cases p.operands? q with
  | none => rfl
  | some o => exact Payload.recast_of_slot? (hf o)

/-- Texts that are joined now could be joined before. -/
def Joins (s t : Text) : Prop := r.width s.width = r.width t.width → s.width = t.width

theorem append {s t : Text} (h : r.Joins s t) :
    (r.text s).append (r.text t) = match s.append t with
      | .ok joined => .ok (r.text joined)
      | .error _ => .error (.widthMismatch (r.width s.width) (r.width t.width)) := by
  by_cases hwidth : s.width = t.width
  · rw [Text.append_eq_extend hwidth, Text.append_eq_extend (by simp [hwidth])]
    exact congrArg Except.ok (Text.ext_chars (by simp) (by simp))
  · rw [Text.append_of_ne hwidth, Text.append_of_ne (by simpa using mt h hwidth)]
    simp

theorem joined {s t : Text} (h : r.Joins s t) :
    r.payload (Value.joined s t) = Value.joined (r.text s) (r.text t) := by
  unfold Value.joined
  rw [r.append h]
  cases s.append t <;> rfl

theorem add {p q : Payload Value} (h : ∀ s t, p = .text s → q = .text t → r.Joins s t) :
    r.payload (p.add q) = (r.payload p).add (r.payload q) := by
  have hnumeric := r.numeric Operands.slot?_add p q
  have hjoined : ∀ s t : Text, (Payload.text s).add (.text t) = Value.joined s t := by
    intro s t
    unfold Payload.add Value.joined
    dsimp only
    cases s.append t <;> rfl
  cases p with
  | text s =>
      cases q with
      | text t =>
          show r.payload ((Payload.text s).add (.text t)) =
              (Payload.text (r.text s)).add (.text (r.text t))
          rw [hjoined, hjoined, r.joined (h s t rfl rfl)]
      | _ => exact hnumeric
  | list a =>
      cases q with
      | list b =>
          show Payload.list (.owned ((a.items ++ b.items).map r.value))
            = .list (.owned ((a.map r.value).items ++ (b.map r.value).items))
          rw [ListSource.items_map a r.ofInt, ListSource.items_map b r.ofInt, List.map_append]
      | _ => exact hnumeric
  | _ => exact hnumeric

theorem mul (p q : Payload Value) : r.payload (p.mul q) = (r.payload p).mul (r.payload q) := by
  have hnumeric := r.numeric Operands.slot?_mul p q
  have hrepeat : ∀ t n, r.payload (Payload.repeatText t n) = Payload.repeatText (r.text t) n :=
    fun t n => congrArg Payload.text (t.recast_mapChars r.width _)
  cases p with
  | text t =>
      cases q with
      | int n => exact hrepeat t n
      | _ => exact hnumeric
  | int n =>
      cases q with
      | text t => exact hrepeat t n
      | _ => exact hnumeric
  | _ => exact hnumeric

theorem div (p q : Payload Value) : r.payload (p.div q) = (r.payload p).div (r.payload q) := by
  have htoDouble : ∀ p : Payload Value, (r.payload p).toDouble? = p.toDouble? := by
    intro p
    cases p <;> rfl
  refine (Payload.recast_of_slot? (Payload.slot?_div p q)).trans ?_
  unfold Payload.div
  rw [htoDouble, htoDouble]

theorem binary (op : BinaryOp) {a b : Value}
    (h : ∀ s t, a.data = .text s → b.data = .text t → r.Joins s t) :
    r.payload (op.apply a b) = op.apply (r.value a) (r.value b) := by
  have hordered : ∀ accepted, r.payload (a.ordered b accepted)
      = (r.value a).ordered (r.value b) accepted := by
    intro accepted
    unfold Value.ordered
    rw [r.order?]
    rfl
  have hequal := r.equal a b
  have ha := r.data_value a
  have hb := r.data_value b
  unfold BinaryOp.apply
  cases op with
  | eq => exact congrArg Payload.bool hequal.symm
  | ne => exact congrArg (fun x => Payload.bool !x) hequal.symm
  | gt => exact hordered _
  | lt => exact hordered _
  | ge => exact hordered _
  | le => exact hordered _
  | add => rw [ha, hb]; exact r.add h
  | sub => rw [ha, hb]; exact r.numeric Operands.slot?_sub _ _
  | mul => rw [ha, hb]; exact r.mul _ _
  | div => rw [ha, hb]; exact r.div _ _
  | mod => rw [ha, hb]; exact r.numeric Operands.slot?_mod _ _
  | floorDiv => rw [ha, hb]; exact r.numeric Operands.slot?_floorDiv _ _
  | pow => rw [ha, hb]; exact r.numeric Operands.slot?_pow _ _
  | _ => rfl

theorem unary (op : UnaryOp) (v : Value) : r.payload (op.apply v) = op.apply (r.value v) := by
  have htruthy := r.truthy v
  unfold UnaryOp.apply
  rw [r.data_value]
  cases op with
  | not => exact congrArg (fun x => Payload.bool !x) htruthy.symm
  | neg => cases v.data <;> rfl
  | pos => cases v.data <;> rfl

/-! ### Reading an index -/

theorem reading (base key : Value) :
    (r.value base).reading (r.value key) =
      (r.value (base.reading key).1, (base.reading key).2) := by
  have hgetD : ∀ o : Option Value, (o.map r.value).getD .empty = r.value (o.getD .empty) := by
    intro o
    cases o with
    | none => exact (r.value_of .empty).symm
    | some v => rfl
  unfold Value.reading
  rw [r.data_value, r.asInt?, r.asText?]
  cases base.data with
  | list l =>
      have hindex : (l.map r.value).index? = fun i => (l.index? i).map r.value := by
        funext i
        unfold ListSource.index?
        rw [ListSource.length_map]
        cases position? l.length i with
        | none => rfl
        | some n => exact ListSource.get?_map l r.ofInt n
      show ((key.asInt?.bind (l.map r.value).index?).getD .empty, false) = _
      rw [hindex, ← hgetD, Option.map_bind]
      rfl
  | map m =>
      show (((key.asText?.map r.text).bind fun name =>
        (m.map r.value).get? name.toPlain).getD .empty, false) = _
      simp only [Option.bind_map, Function.comp_def, Text.toPlain_eq, Text.chars_recast,
        MapSource.get?_map]
      rw [← hgetD, Option.map_bind]
      rfl
  | text t =>
      have hindex : (r.text t).index? = fun i => (t.index? i).map r.text := by
        funext i
        exact t.index?_recast r.width i
      have hread : key.asInt?.bind (r.text t).index? = (key.asInt?.bind t.index?).map r.text := by
        rw [hindex, Option.map_bind]
        rfl
      dsimp only [Payload.recast, Payload.mapHeld, Payload.mapText]
      rw [hread]
      cases key.asInt?.bind t.index? with
      | none => exact congrArg (·, false) (r.value_of .empty).symm
      | some c => exact congrArg (·, true) (r.value_of (.text c)).symm
  | _ => exact congrArg (·, false) (r.value_of .empty).symm

end Recast

/-! ### Filters

Of an argument a filter sees the code points, the truth and the integer, and of its
input the text.  So its result on recast values is the recast result, unless it reads
bytes: percent-encoding does, and what it makes of a text depends on the width.
-/

/-- Two values a filter cannot tell apart as arguments. -/
structure SameArgument (v v' : Value) : Prop where
  argChars : v.argChars = v'.argChars
  truthy : v.truthy = v'.truthy
  toInt : ∀ default, v.toInt default = v'.toInt default

theorem Filter.result_congr (f : Filter) (t : Text) {args args' : List Value}
    (h : List.Forall₂ SameArgument args args') : f.result t args = f.result t args' := by
  cases f with
  | replace =>
      rcases h with _ | ⟨hold, _ | ⟨hnew, _ | ⟨hcount, _ | _⟩⟩⟩
      case cons.cons.cons.nil =>
        show Payload.text _ = .text _
        rw [hold.argChars, hnew.argChars, hcount.toInt]
      all_goals rfl
  | truncate =>
      rcases h with _ | ⟨hlength, _ | ⟨hkill, _ | ⟨hending, _ | ⟨hleeway, _ | _⟩⟩⟩⟩
      case cons.cons.cons.cons.nil =>
        show Payload.text _ = .text _
        rw [hlength.toInt, hkill.truthy, hending.argChars, hleeway.toInt]
      all_goals rfl
  | _ => rfl

namespace Recast

variable (r : Recast)

theorem sameArgument (v : Value) : SameArgument v (r.value v) :=
  ⟨(r.argChars v).symm, (r.truthy v).symm, fun default => (r.toInt v default).symm⟩

/-- All filters but one look at code points only. -/
theorem filter (f : Filter) {t : Text} (args : List Value)
    (hurl : f = .urlEncode → r.width t.width = t.width) :
    r.payload (f.result t args) = f.result (r.text t) args := by
  have hmap : ∀ g, (Payload.text ((t.mapChars g).recast r.width) : Payload Value)
      = .text ((r.text t).mapChars g) :=
    fun g => congrArg Payload.text (t.recast_mapChars r.width g)
  cases f with
  | trim => exact hmap _
  | title => exact hmap _
  | upper => exact hmap _
  | lower => exact hmap _
  | wordCount =>
      show Payload.int (Int64.ofNat (Words.count t.chars)) = .int _
      rw [Text.chars_recast]
  | replace =>
      rcases args with _ | ⟨old, _ | ⟨new, _ | ⟨count, _ | _⟩⟩⟩
      case cons.cons.cons.nil => exact hmap _
      all_goals rfl
  | truncate =>
      rcases args with _ | ⟨length, _ | ⟨killWords, _ | ⟨ending, _ | ⟨leeway, _ | _⟩⟩⟩⟩
      case cons.cons.cons.cons.nil => exact hmap _
      all_goals rfl
  | urlEncode =>
      have hsame : ∀ u : Text, u.width = t.width → u.recast r.width = u :=
        fun u hu => Text.ext_chars (by simp [hu, hurl rfl]) (by simp)
      show Payload.text ((Percent.encode t).recast r.width)
        = (.text (Percent.encode (t.recast r.width)) : Payload Value)
      rw [hsame t rfl, hsame _ (by simp)]

end Recast

end TemplateExpr
