import Mathlib.Tactic.Lemma
import PgOperator.Proofs.Instant
import PgOperator.Schema.Record

/-!
What is written is read back.

A value's written form is an ordered document other than `null`. Reading it gives the value with
whole seconds (`Shape.decode_encode`), where no record of the shape has two fields of one name. A
value that is whole already is the only whole one of its written form.
-/

namespace PgOperator

/-! ### Names -/

/-- The names of a record's fields. -/
def Fields.names : Fields → List String
  | .nil => []
  | .const name _ _ rest | .field name _ _ rest => name :: rest.names

mutual

/-- Whether no record in the shape has two fields of one name. -/
def Shape.wellNamed : Shape → Bool
  | .list item | .dict item | .hidden item => item.wellNamed
  | .record _ fields => fields.names.Nodup ∧ fields.wellNamed
  | _ => true

def Fields.wellNamed : Fields → Bool
  | .nil => true
  | .const _ _ _ rest => rest.wellNamed
  | .field _ _ shape rest => shape.wellNamed && rest.wellNamed

end

/-! ### Written forms -/

theorem Shape.encode_ne_null : (shape : Shape) → (value : shape.Val) → shape.encode value ≠ .null
  | .text, _ | .flag, _ | .int32, _ | .int64, _ | .instant, _ | .choice _ _, _ => nofun
  | .list _, _ | .dict _, _ | .record _ _, _ => nofun
  | .intOrText, .int _ | .intOrText, .text _ => nofun
  | .free, doc => doc.2.1
  | .hidden shape, value => shape.encode_ne_null value

namespace Presence

variable {α : Type} {write : α → Json} {name key : String}

lemma get?_encode_of_ne (h : key ≠ name) : (presence : Presence) → (value : presence.Val α) →
    Sorted.get? key (presence.encode write name value) = none
  | .optional, none => rfl
  | .optional, some _ | .lenient, _ | .strict, _ | .nullable, _ => by
    simp [encode, Sorted.get?, Ne.symm h]
  | .defaulted document hidden, value => by
    rw [encode]
    split <;> simp [Sorted.get?, Ne.symm h]

lemma sublist_keys (presence : Presence) (value : presence.Val α) :
    ((presence.encode write name value).map Prod.fst).Sublist [name] := by
  cases presence with
  | optional => cases value <;> simp [encode]
  | defaulted document hidden =>
    rw [encode]
    split <;> simp
  | _ => simp [encode]

lemma ordered_of_mem_encode (h : ∀ value, (write value).Ordered) (presence : Presence)
    (value : presence.Val α) : ∀ e ∈ presence.encode write name value, e.2.Ordered := by
  cases presence with
  | optional => cases value <;> simp [encode, h]
  | defaulted document hidden =>
    rw [encode]
    split <;> simp [h]
  | _ => simp [encode, h]

end Presence

lemma Fields.sublist_keys : (fields : Fields) → (value : fields.Val) →
    ((fields.encode value).map Prod.fst).Sublist fields.names
  | .nil, _ => .slnil
  | .const _ _ _ rest, value => (rest.sublist_keys value).cons_cons _
  | .field _ presence _ rest, value => by
    rw [encode, List.map_append]
    exact (presence.sublist_keys value.1).append (rest.sublist_keys value.2)

lemma Fields.get?_encode_of_not_mem {fields : Fields} {name : String} (h : name ∉ fields.names)
    (value : fields.Val) : Sorted.get? name (fields.encode value) = none :=
  Sorted.get?_eq_none_iff.2 fun hmem => h ((fields.sublist_keys value).subset hmem)

lemma Fields.get?_object_encode {fields : Fields} (h : fields.names.Nodup) (value : fields.Val)
    (name : String) :
    (Json.object (fields.encode value)).get? name = Sorted.get? name (fields.encode value) :=
  Sorted.get?_ofList (h.sublist (fields.sublist_keys value)) name

/-- What a field is written as, if it is written. -/
def Presence.document {α : Type} (write : α → Json) :
    (presence : Presence) → presence.Val α → Option Json
  | .optional, value => value.map write
  | .lenient, value | .strict, value | .nullable, value => some (write value)
  | .defaulted document hidden, value =>
    if hidden ∧ write value = document then none else some (write value)

/-- What the field of a name is written as, if it is written. -/
def Fields.document (key : String) : (fields : Fields) → fields.Val → Option Json
  | .nil, _ => none
  | .const name text _ rest, value =>
    if name = key then some (.str text) else rest.document key value
  | .field name presence shape rest, value =>
    if name = key then presence.document shape.encode value.1 else rest.document key value.2

lemma Presence.get?_encode_name {α : Type} {write : α → Json} (name : String) :
    (presence : Presence) → (value : presence.Val α) →
    Sorted.get? name (presence.encode write name value) = presence.document write value
  | .optional, none => rfl
  | .optional, some _ | .lenient, _ | .strict, _ | .nullable, _ => if_pos rfl
  | .defaulted document hidden, value => by
    rw [encode, Presence.document]
    split
    · rfl
    · exact if_pos rfl

/-- **The members of a written record** are those that its fields are written as. -/
lemma Fields.get?_encode (key : String) : (fields : Fields) → fields.names.Nodup →
    (value : fields.Val) → Sorted.get? key (fields.encode value) = fields.document key value
  | .nil, _, _ => rfl
  | .const name text _ rest, h, value => by
    rw [encode, Sorted.get?, document, rest.get?_encode key (List.nodup_cons.1 h).2]
  | .field name presence shape rest, h, value => by
    obtain ⟨hname, hrest⟩ := List.nodup_cons.1 h
    rw [encode, Sorted.get?_append, document]
    by_cases hkey : name = key
    · subst hkey
      rw [presence.get?_encode_name, rest.get?_encode_of_not_mem hname, Option.or_none, if_pos rfl]
    · rw [presence.get?_encode_of_ne (Ne.symm hkey), Option.none_or, rest.get?_encode key hrest,
        if_neg hkey]

mutual

theorem Shape.ordered_encode : (shape : Shape) → (value : shape.Val) → (shape.encode value).Ordered
  | .text, _ | .flag, _ | .int32, _ | .int64, _ | .instant, _ | .choice _ _, _ => trivial
  | .intOrText, .int _ | .intOrText, .text _ => trivial
  | .free, doc => doc.2.2
  | .list item, items => by
    refine Json.ordered_arr.2 fun doc hdoc => ?_
    obtain ⟨value, -, rfl⟩ := List.mem_map.1 hdoc
    exact item.ordered_encode value
  | .dict item, dict => by
    refine Json.ordered_obj.2 ⟨dict.ordered.map fun _ => item.encode, fun e he => ?_⟩
    obtain ⟨entry, -, rfl⟩ := List.mem_map.1 he
    exact item.ordered_encode entry.2
  | .record _ fields, value => Json.ordered_object (fields.ordered_encode value)
  | .hidden shape, value => shape.ordered_encode value

theorem Fields.ordered_encode : (fields : Fields) → (value : fields.Val) →
    ∀ e ∈ fields.encode value, e.2.Ordered
  | .nil, _ => by simp [Fields.encode]
  | .const _ _ _ rest, value => by
    simpa [Fields.encode, Json.Ordered] using rest.ordered_encode value
  | .field _ presence shape rest, value => by
    intro e he
    rcases List.mem_append.1 he with he | he
    · exact presence.ordered_of_mem_encode shape.ordered_encode value.1 e he
    · exact rest.ordered_encode value.2 e he

end

/-! ### Whole seconds -/

/-- Changes the value of a field, where there is one. -/
def Presence.map {α : Type} (f : α → α) : (presence : Presence) → presence.Val α → presence.Val α
  | .optional, value => Option.map f value
  | .lenient, value | .strict, value | .nullable, value | .defaulted _ _, value => f value

mutual

/-- The value with the fractions of all seconds dropped, as they are when it is written. -/
def Shape.whole : (shape : Shape) → shape.Val → shape.Val
  | .instant, t => { t with nanos := 0, valid := by have := t.valid; omega }
  | .list item, items => List.map item.whole items
  | .dict item, dict => dict.map item.whole
  | .record _ fields, value => fields.whole value
  | .hidden shape, value => shape.whole value
  | .text, value | .flag, value | .int32, value | .int64, value | .intOrText, value
  | .free, value | .choice _ _, value => value

def Fields.whole : (fields : Fields) → fields.Val → fields.Val
  | .nil, _ => ()
  | .const _ _ _ rest, value => rest.whole value
  | .field _ presence shape rest, value => (presence.map shape.whole value.1, rest.whole value.2)

end

lemma Presence.encode_map {α : Type} {write : α → Json} {f : α → α}
    (h : ∀ value, write (f value) = write value) (name : String) (presence : Presence)
    (value : presence.Val α) :
    presence.encode write name (presence.map f value) = presence.encode write name value := by
  cases presence with
  | optional => cases value <;> simp [encode, map, h]
  | _ => simp [encode, map, h]

mutual

/-- Fractions of seconds are not written. -/
theorem Shape.encode_whole : (shape : Shape) → (value : shape.Val) →
    shape.encode (shape.whole value) = shape.encode value
  | .instant, _ | .text, _ | .flag, _ | .int32, _ | .int64, _ | .intOrText, _ | .free, _
  | .choice _ _, _ => rfl
  | .list item, items => by
    simp [Shape.encode, Shape.whole, Function.comp_def, item.encode_whole]
  | .dict item, dict => by
    simp [Shape.encode, Shape.whole, Dict.map, Function.comp_def, item.encode_whole]
  | .record _ fields, value => congrArg Json.object (fields.encode_whole value)
  | .hidden shape, value => shape.encode_whole value

theorem Fields.encode_whole : (fields : Fields) → (value : fields.Val) →
    fields.encode (fields.whole value) = fields.encode value
  | .nil, _ => rfl
  | .const _ _ _ rest, value => congrArg (_ :: ·) (rest.encode_whole value)
  | .field name presence shape rest, value => by
    simp only [Fields.encode, Fields.whole, presence.encode_map shape.encode_whole,
      rest.encode_whole]

end

mutual

theorem Shape.whole_zero : (shape : Shape) → shape.whole shape.zero = shape.zero
  | .text | .flag | .int32 | .int64 | .instant | .intOrText | .free | .choice _ _ => rfl
  | .list _ | .dict _ => rfl
  | .record _ fields => fields.whole_zero
  | .hidden shape => shape.whole_zero

/-- The least value of a record has no fractions of seconds. -/
theorem Fields.whole_zero : (fields : Fields) → fields.whole fields.zero = fields.zero
  | .nil => rfl
  | .const _ _ _ rest => rest.whole_zero
  | .field _ presence shape rest => by
    have hfirst : presence.map shape.whole (presence.zero shape.zero) =
        presence.zero shape.zero := by
      cases presence <;> simp [Presence.map, Presence.zero, shape.whole_zero]
    simp only [Fields.whole, Fields.zero, hfirst, rest.whole_zero]

end

mutual

/-- Whether no value of the shape has a point in time in it. -/
def Shape.timeless : Shape → Bool
  | .instant => false
  | .list item | .dict item | .hidden item => item.timeless
  | .record _ fields => fields.timeless
  | .text | .flag | .int32 | .int64 | .intOrText | .free | .choice _ _ => true

def Fields.timeless : Fields → Bool
  | .nil => true
  | .const _ _ _ rest => rest.timeless
  | .field _ _ shape rest => shape.timeless && rest.timeless

end

lemma Presence.map_id {α : Type} (presence : Presence) (value : presence.Val α) :
    presence.map id value = value := by
  cases presence <;> simp [map]

mutual

theorem Shape.whole_of_timeless : (shape : Shape) → shape.timeless = true → shape.whole = id
  | .instant, h => absurd h nofun
  | .text, _ | .flag, _ | .int32, _ | .int64, _ | .intOrText, _ | .free, _ | .choice _ _, _ => by
    funext value
    simp only [Shape.whole, id]
  | .list item, h => by
    funext items
    simp only [Shape.whole, item.whole_of_timeless h, List.map_id_fun]
  | .dict item, h => by
    funext dict
    simp [Shape.whole, item.whole_of_timeless h, Dict.map]
  | .record _ fields, h => by
    funext value
    simp only [Shape.whole, fields.whole_of_timeless h]
  | .hidden shape, h => by
    funext value
    simp only [Shape.whole, shape.whole_of_timeless h]

theorem Fields.whole_of_timeless : (fields : Fields) → fields.timeless = true → fields.whole = id
  | .nil, _ => rfl
  | .const _ _ _ rest, h => by
    funext value
    simp only [Fields.whole, rest.whole_of_timeless h]
  | .field _ presence shape rest, h => by
    obtain ⟨hshape, hrest⟩ := Bool.and_eq_true_iff.1 h
    funext value
    simp only [Fields.whole, shape.whole_of_timeless hshape, rest.whole_of_timeless hrest,
      presence.map_id, id]

end

/-! ### Reading back -/

lemma decodeItems_map {α β : Type} {decode : Json → Option β} {write : α → Json} {f : α → β}
    (h : ∀ value, decode (write value) = some (f value)) (items : List α) :
    decodeItems decode (items.map write) = some (items.map f) := by
  induction items with
  | nil => rfl
  | cons item rest ih => simp [decodeItems, h, ih]

lemma decodeMembers_map {α β : Type} {decode : Json → Option β} {write : α → Json} {f : α → β}
    (h : ∀ value, decode (write value) = some (f value)) (entries : List (String × α)) :
    decodeMembers decode (entries.map fun e => (e.1, write e.2)) =
      some (entries.map fun e => (e.1, f e.2)) := by
  induction entries with
  | nil => rfl
  | cons e rest ih => simp [decodeMembers, h, ih]

lemma decodeInt32_int (n : Int32) : decodeInt32 (.int n.toInt) = some n := by
  rw [decodeInt32, if_pos ⟨n.minValue_le_toInt, n.toInt_le⟩, Int32.ofInt_toInt]

lemma decodeInt64_int (n : Int64) : decodeInt64 (.int n.toInt) = some n := by
  rw [decodeInt64, if_pos ⟨n.minValue_le_toInt, n.toInt_le⟩, Int64.ofInt_toInt]

lemma present?_of_present (doc : Json.Present) : doc.1.present? = some doc := by
  obtain ⟨doc, hnull, hordered⟩ := doc
  simp [Json.present?, hnull, Json.inOrder_of_ordered hordered]

lemma Presence.decode_get?_encode {α : Type} {read : Json → Option α} {write : α → Json}
    {f : α → α} (least : α) (hnull : ∀ value, write value ≠ .null)
    (h : ∀ value, read (write value) = some (f value)) (name : String) (presence : Presence)
    (value : presence.Val α) :
    presence.decode read least (Sorted.get? name (presence.encode write name value)) =
      some (presence.map f value) := by
  cases presence with
  | optional =>
    cases value with
    | none => rfl
    | some value =>
      have hdoc := hnull value
      have hread := h value
      revert hdoc hread
      simp only [encode, Sorted.get?, if_true]
      cases write value <;> simp_all [decode, map]
  | defaulted document hidden =>
    simp only [encode]
    split
    · rename_i heq
      simp only [Sorted.get?, decode, map, ← heq.2, h]
    · simp only [Sorted.get?, if_true, decode, map, h]
  | _ =>
    have hdoc := hnull value
    have hread := h value
    revert hdoc hread
    simp only [encode, Sorted.get?, if_true]
    cases write value <;> simp_all [decode, map]

mutual

/-- **Round trip**: what is written is read back, with whole seconds. -/
theorem Shape.decode_encode : (shape : Shape) → shape.wellNamed = true → (value : shape.Val) →
    shape.decode (shape.encode value) = some (shape.whole value)
  | .text, _, _ | .flag, _, _ => rfl
  | .int32, _, n => decodeInt32_int n
  | .int64, _, n => decodeInt64_int n
  | .instant, _, t => t.ofText?_text
  | .intOrText, _, .int n => by
    simp only [Shape.encode, Shape.decode, Shape.whole, IntOrText.encode, decodeIntOrText,
      decodeInt32_int, Option.map_some]
  | .intOrText, _, .text _ => rfl
  | .free, _, doc => present?_of_present doc
  | .choice first others, _, name => dif_pos name.2
  | .list item, h, items => decodeItems_map (item.decode_encode h) items
  | .dict item, h, dict => by
    simp only [Shape.encode, Shape.decode, decodeMembers_map (item.decode_encode h),
      Option.map_some, Option.some.injEq]
    exact Dict.ext (Sorted.ofList_of_ordered (dict.ordered.map fun _ => item.whole))
  | .record _ fields, h, value => by
    have h : decide (fields.names.Nodup ∧ fields.wellNamed = true) = true := h
    obtain ⟨hnames, hfields⟩ := of_decide_eq_true h
    exact fields.decode_encode hfields hnames value _ fun name _ =>
      fields.get?_object_encode hnames value name
  | .hidden shape, h, value => shape.decode_encode h value

theorem Fields.decode_encode : (fields : Fields) → fields.wellNamed = true → fields.names.Nodup →
    (value : fields.Val) → (members : List (String × Json)) →
    (∀ name ∈ fields.names,
      Sorted.get? name members = Sorted.get? name (fields.encode value)) →
    fields.decode members = some (fields.whole value)
  | .nil, _, _, _, _, _ => rfl
  | .const name text checked rest, h, hnames, value, members, hsame => by
    obtain ⟨hname, hrest⟩ := List.nodup_cons.1 hnames
    have hget : Sorted.get? name members = some (.str text) :=
      (hsame name List.mem_cons_self).trans (if_pos rfl)
    have hthen := rest.decode_encode h hrest value members fun other ho => by
      have hne : name ≠ other := fun heq => hname (heq ▸ ho)
      exact (hsame other (List.mem_cons_of_mem _ ho)).trans (if_neg hne)
    simp only [Fields.decode, hget, Option.getD_some, ne_eq, not_true_eq_false, and_false, if_false,
      hthen, Fields.whole]
  | .field name presence shape rest, h, hnames, value, members, hsame => by
    obtain ⟨hname, hrest⟩ := List.nodup_cons.1 hnames
    obtain ⟨hshape, hfields⟩ := Bool.and_eq_true_iff.1 h
    have hget : Sorted.get? name members =
        Sorted.get? name (presence.encode shape.encode name value.1) := by
      rw [hsame name List.mem_cons_self, Fields.encode, Sorted.get?_append,
        rest.get?_encode_of_not_mem hname, Option.or_none]
    have hfirst := presence.decode_get?_encode shape.zero shape.encode_ne_null
      (shape.decode_encode hshape) name value.1
    have hthen := rest.decode_encode hfields hrest value.2 members
      fun other ho => by
        have hne : other ≠ name := fun heq => hname (heq ▸ ho)
        rw [hsame other (List.mem_cons_of_mem _ ho), Fields.encode, Sorted.get?_append,
          presence.get?_encode_of_ne hne, Option.none_or]
    simp [Fields.decode, hget, hfirst, hthen, Fields.whole]

end

namespace Record

variable {α : Type} [Record α]

lemma nodup_names (h : (shape α).wellNamed = true) : (fields α).names.Nodup :=
  (of_decide_eq_true (show decide (_ ∧ _) = true from h)).1

/-- **The members of a written structure**, each by its key. -/
lemma get?_encode (h : (shape α).wellNamed = true) (value : α) (key : String) :
    (encode value).get? key = (fields α).document key (toVal value) :=
  (Fields.get?_object_encode (nodup_names h) _ _).trans (Fields.get?_encode _ _ (nodup_names h) _)

lemma document_optional (value : Option α) :
    Presence.optional.document (shape α).encode (value.map toVal) = value.map encode :=
  Option.map_map _ _ _

/-- The structure with the fractions of all seconds dropped. -/
def whole (value : α) : α := ofVal ((fields α).whole (toVal value))

/-- The structure has no fractions of seconds. -/
def Whole (value : α) : Prop := whole value = value

lemma whole_iff {value : α} : Whole value ↔ (fields α).whole (toVal value) = toVal value := by
  constructor
  · intro h
    have := congrArg toVal (show whole value = value from h)
    rwa [whole, toVal_ofVal] at this
  · intro h
    rw [Whole, whole, h, ofVal_toVal]

lemma ordered_encode (value : α) : (encode value).Ordered := (shape α).ordered_encode _

lemma encode_whole (value : α) : encode (whole value) = encode value := by
  rw [encode, whole, toVal_ofVal]
  exact (shape α).encode_whole (toVal value)

theorem decode_encode (h : (shape α).wellNamed = true) (value : α) :
    decode (encode value) = some (whole value) := by
  rw [decode, encode, (shape α).decode_encode h]
  rfl

lemma whole_whole (h : (shape α).wellNamed = true) (value : α) : Whole (whole value) := by
  have := decode_encode h (whole value)
  rw [encode_whole, decode_encode h] at this
  exact (Option.some.inj this).symm

lemma decode_encode_of_whole (h : (shape α).wellNamed = true) {value : α} (hw : Whole value) :
    decode (encode value) = some value := by
  rw [decode_encode h, show whole value = value from hw]

lemma eq_of_encode_eq (h : (shape α).wellNamed = true) {a b : α} (ha : Whole a) (hb : Whole b)
    (heq : encode a = encode b) : a = b := by
  have := decode_encode_of_whole h ha
  rw [heq, decode_encode_of_whole h hb] at this
  exact (Option.some.inj this).symm

end Record

end PgOperator
