import Mathlib.Tactic.Lemma
import PgOperator.Database.Definition
import PgOperator.Proofs.RoundTrip

/-!
The published schemas and the codec describe one format.

The API server checks what is written to it against the schema of the resource's definition, and
fills absent members in with the defaults that the schema declares. Every written form passes the
check (`Shape.accepts_encode`), a document that reads carries the same value after it was filled in
(`Shape.decode_fill`), and one that passes the check still does (`Shape.accepts_fill`). For the two
definitions the first two are put together in `Definition.schemas_describe_codec`.
-/

namespace PgOperator

/-! ### The property of a field -/

namespace Presence

/-- Whether the field has to be there. -/
def isRequired : Presence → Bool
  | .strict | .nullable => true
  | .optional | .lenient | .defaulted _ _ => false

/-- Whether `null` may stand for the field. -/
def isNullable : Presence → Bool
  | .optional | .lenient | .nullable => true
  | .strict | .defaulted _ _ => false

/-- The default that is declared for the field. -/
def declared : Presence → Option Json
  | .defaulted document false => some document
  | .optional | .lenient | .strict | .nullable | .defaulted _ true => none

end Presence

lemma Fields.properties_field (name : String) (presence : Presence) (shape : Shape)
    (rest : Fields) : (Fields.field name presence shape rest).properties =
      .cons name presence.isRequired presence.isNullable presence.declared shape.openApi
        rest.properties := by
  cases presence with
  | defaulted document hidden => cases hidden <;> rfl
  | _ => rfl

/-! ### What is written is admitted -/

lemma Presence.get?_encode_self {α : Type} (write : α → Json) (name : String) (presence : Presence)
    (value : presence.Val α) :
    (Sorted.get? name (presence.encode write name value) = none ∧ presence.isRequired = false) ∨
      ∃ item, Sorted.get? name (presence.encode write name value) = some (write item) := by
  cases presence with
  | optional =>
    cases value with
    | none => exact .inl ⟨rfl, rfl⟩
    | some value => exact .inr ⟨value, if_pos rfl⟩
  | defaulted document hidden =>
    rw [encode]
    split
    · exact .inl ⟨rfl, rfl⟩
    · exact .inr ⟨value, if_pos rfl⟩
  | _ => exact .inr ⟨value, if_pos rfl⟩

lemma accepts_int32 (n : Int32) : (OpenApi.integer 32).accepts (.int n.toInt) = true := by
  have hleast : -2147483648 ≤ n.toInt := n.minValue_le_toInt
  have hgreatest : n.toInt ≤ 2147483647 := n.toInt_le
  exact decide_eq_true ⟨hleast, Int.lt_add_one_iff.2 hgreatest⟩

lemma accepts_int64 (n : Int64) : (OpenApi.integer 64).accepts (.int n.toInt) = true := by
  have hleast : -9223372036854775808 ≤ n.toInt := n.minValue_le_toInt
  have hgreatest : n.toInt ≤ 9223372036854775807 := n.toInt_le
  exact decide_eq_true ⟨hleast, Int.lt_add_one_iff.2 hgreatest⟩

mutual

/-- **Admission**: a written form passes the check of the schema that its shape publishes. -/
theorem Shape.accepts_encode : (shape : Shape) → shape.wellNamed = true → (value : shape.Val) →
    shape.openApi.accepts (shape.encode value) = true
  | .text, _, _ | .flag, _, _ | .instant, _, _ => rfl
  | .intOrText, _, _ | .free, _, _ | .hidden _, _, _ => rfl
  | .int32, _, n => accepts_int32 n
  | .int64, _, n => accepts_int64 n
  | .choice _ _, _, name => List.contains_iff_mem.2 name.2
  | .list item, h, items => by
    refine List.all_eq_true.2 fun doc hdoc => ?_
    obtain ⟨value, -, rfl⟩ := List.mem_map.1 hdoc
    exact item.accepts_encode h value
  | .dict item, h, dict => by
    refine List.all_eq_true.2 fun e he => ?_
    obtain ⟨entry, -, rfl⟩ := List.mem_map.1 he
    exact item.accepts_encode h entry.2
  | .record _ fields, h, value => by
    have h : decide (fields.names.Nodup ∧ fields.wellNamed = true) = true := h
    obtain ⟨hnames, hfields⟩ := of_decide_eq_true h
    exact fields.accepts_encode hfields hnames value _ fun name _ =>
      fields.get?_object_encode hnames value name

theorem Fields.accepts_encode : (fields : Fields) → fields.wellNamed = true → fields.names.Nodup →
    (value : fields.Val) → (members : List (String × Json)) →
    (∀ name ∈ fields.names,
      Sorted.get? name members = Sorted.get? name (fields.encode value)) →
    fields.properties.accepts members = true
  | .nil, _, _, _, _, _ => rfl
  | .const name text checked rest, h, hnames, value, members, hsame => by
    obtain ⟨hname, hrest⟩ := List.nodup_cons.1 hnames
    have hget : Sorted.get? name members = some (.str text) :=
      (hsame name List.mem_cons_self).trans (if_pos rfl)
    have hthen := rest.accepts_encode h hrest value members fun other ho => by
      have hne : name ≠ other := fun heq => hname (heq ▸ ho)
      exact (hsame other (List.mem_cons_of_mem _ ho)).trans (if_neg hne)
    simp [Fields.properties, Properties.accepts, OpenApi.accepts, hget, hthen]
  | .field name presence shape rest, h, hnames, value, members, hsame => by
    obtain ⟨hname, hrest⟩ := List.nodup_cons.1 hnames
    obtain ⟨hshape, hfields⟩ := Bool.and_eq_true_iff.1 h
    have hget : Sorted.get? name members =
        Sorted.get? name (presence.encode shape.encode name value.1) := by
      rw [hsame name List.mem_cons_self, Fields.encode, Sorted.get?_append,
        rest.get?_encode_of_not_mem hname, Option.or_none]
    have hthen := rest.accepts_encode hfields hrest value.2 members
      fun other ho => by
        have hne : other ≠ name := fun heq => hname (heq ▸ ho)
        rw [hsame other (List.mem_cons_of_mem _ ho), Fields.encode, Sorted.get?_append,
          presence.get?_encode_of_ne hne, Option.none_or]
    rw [Fields.properties_field, Properties.accepts, hthen, Bool.and_true, hget]
    obtain ⟨hnone, hrequired⟩ | ⟨item, hitem⟩ :=
      presence.get?_encode_self shape.encode name value.1
    · rw [hnone, hrequired]
      rfl
    · rw [hitem]
      exact Bool.or_eq_true_iff.2 (.inr (shape.accepts_encode hshape item))

end

/-! ### What is filled in was there -/

lemma OpenApi.fill_eq_null_iff (schema : OpenApi) (doc : Json) :
    schema.fill doc = .null ↔ doc = .null := by
  cases schema <;> cases doc <;> simp [fill]

/-- The members of a record after one of its fields was filled in. -/
def filledIn (name : String) (declared : Option Json) (fill : Json → Json)
    (members : List (String × Json)) : List (String × Json) :=
  match (Sorted.get? name members).or declared with
  | some doc => Sorted.insert name (fill doc) members
  | none => members

section FilledIn

variable {name : String} {declared : Option Json} {fill : Json → Json}
  {members : List (String × Json)}

lemma get?_filledIn_self : Sorted.get? name (filledIn name declared fill members) =
    ((Sorted.get? name members).or declared).map fill := by
  unfold filledIn
  split
  · rename_i doc heq
    rw [heq, Sorted.get?_insert_self, Option.map_some]
  · rename_i heq
    rw [heq, Option.map_none]
    exact (Option.or_eq_none_iff.1 heq).1

lemma get?_filledIn_of_ne {other : String} (h : other ≠ name) :
    Sorted.get? other (filledIn name declared fill members) = Sorted.get? other members := by
  unfold filledIn
  split
  · exact Sorted.get?_insert_of_ne h _ _
  · rfl

end FilledIn

lemma Properties.fill_cons (name : String) (required nullable : Bool) (default : Option Json)
    (schema : OpenApi) (rest : Properties) (members : List (String × Json)) :
    (Properties.cons name required nullable default schema rest).fill members =
      rest.fill (filledIn name default schema.fill members) := by
  show rest.fill _ = rest.fill _
  rw [filledIn]
  cases Sorted.get? name members <;> cases default <;> rfl

lemma Fields.get?_fill_of_not_mem {name : String} : (fields : Fields) → name ∉ fields.names →
    (members : List (String × Json)) →
    Sorted.get? name (fields.properties.fill members) = Sorted.get? name members
  | .nil, _, _ => rfl
  | .const first _ _ rest, h, members => by
    obtain ⟨hne, hrest⟩ := not_or.1 (mt List.mem_cons.2 h)
    rw [Fields.properties, Properties.fill_cons, rest.get?_fill_of_not_mem hrest,
      get?_filledIn_of_ne hne]
  | .field first presence shape rest, h, members => by
    obtain ⟨hne, hrest⟩ := not_or.1 (mt List.mem_cons.2 h)
    rw [Fields.properties_field, Properties.fill_cons, rest.get?_fill_of_not_mem hrest,
      get?_filledIn_of_ne hne]

lemma Fields.decode_congr : (fields : Fields) → {members others : List (String × Json)} →
    (∀ name ∈ fields.names, Sorted.get? name members = Sorted.get? name others) →
    fields.decode members = fields.decode others
  | .nil, _, _, _ => rfl
  | .const name text checked rest, members, others, h => by
    rw [Fields.decode, Fields.decode, h name List.mem_cons_self,
      rest.decode_congr fun other ho => h other (List.mem_cons_of_mem _ ho)]
  | .field name presence shape rest, members, others, h => by
    rw [Fields.decode, Fields.decode, h name List.mem_cons_self,
      rest.decode_congr fun other ho => h other (List.mem_cons_of_mem _ ho)]

lemma Fields.decode_filledIn (fields : Fields) {name : String} (h : name ∉ fields.names)
    {declared : Option Json} {fill : Json → Json} {members : List (String × Json)} :
    fields.decode (filledIn name declared fill members) = fields.decode members :=
  fields.decode_congr fun _ hother => get?_filledIn_of_ne fun heq => h (heq ▸ hother)

section Parts

variable {α : Type} {read : Json → Option α} {fill : Json → Json}

lemma Presence.decode_some {least : α} (presence : Presence) {doc : Json} (h : doc ≠ .null) :
    presence.decode read least (some doc) = (read doc).map fun value => presence.of value := by
  cases presence <;> cases doc <;> simp_all [decode, of]

lemma Presence.decode_filled {least : α} (hnull : ∀ doc, fill doc = .null ↔ doc = .null)
    (h : ∀ doc value, read doc = some value → read (fill doc) = some value)
    (presence : Presence) {doc : Option Json} {value : presence.Val α}
    (hread : presence.decode read least doc = some value) :
    presence.decode read least ((doc.or presence.declared).map fill) = some value := by
  cases doc with
  | some doc =>
    rw [Option.some_or, Option.map_some]
    by_cases hdoc : doc = .null
    · rwa [(hnull doc).2 hdoc, ← hdoc]
    · rw [presence.decode_some hdoc] at hread
      obtain ⟨item, hitem, rfl⟩ := Option.map_eq_some_iff.1 hread
      rw [presence.decode_some (mt (hnull doc).1 hdoc), h doc item hitem, Option.map_some]
  | none =>
    cases presence with
    | defaulted document hidden =>
      cases hidden with
      | false => exact h document value hread
      | true => exact hread
    | _ => exact hread

lemma decodeItems_fill (h : ∀ doc value, read doc = some value → read (fill doc) = some value)
    {items : List Json} {values : List α} (hread : decodeItems read items = some values) :
    decodeItems read (items.map fill) = some values := by
  induction items generalizing values with
  | nil => exact hread
  | cons item rest ih =>
    simp only [decodeItems, Option.pure_def, Option.bind_eq_bind, Option.bind_eq_some_iff] at hread
    obtain ⟨first, hfirst, others, hothers, ⟨⟩⟩ := hread
    simp [decodeItems, h item first hfirst, ih hothers]

lemma decodeMembers_fill (h : ∀ doc value, read doc = some value → read (fill doc) = some value)
    {members : List (String × Json)} {entries : List (String × α)}
    (hread : decodeMembers read members = some entries) :
    decodeMembers read (members.map fun e => (e.1, fill e.2)) = some entries := by
  induction members generalizing entries with
  | nil => exact hread
  | cons member rest ih =>
    simp only [decodeMembers, Option.pure_def, Option.bind_eq_bind,
      Option.bind_eq_some_iff] at hread
    obtain ⟨first, hfirst, others, hothers, ⟨⟩⟩ := hread
    simp [decodeMembers, h member.2 first hfirst, ih hothers]

end Parts

mutual

/-- **Filling in**: a document that reads carries the same value after the declared defaults were
put in place of absent members. -/
theorem Shape.decode_fill : (shape : Shape) → shape.wellNamed = true → (doc : Json) →
    (value : shape.Val) → shape.decode doc = some value →
    shape.decode (shape.openApi.fill doc) = some value
  | .text, _, _, _, h | .flag, _, _, _, h | .int32, _, _, _, h | .int64, _, _, _, h
  | .instant, _, _, _, h | .intOrText, _, _, _, h | .free, _, _, _, h | .choice _ _, _, _, _, h
  | .hidden _, _, _, _, h => h
  | .list item, hnamed, doc, values, h => by
    cases doc with
    | arr items => exact decodeItems_fill (item.decode_fill hnamed) h
    | _ => cases h
  | .dict item, hnamed, doc, dict, h => by
    cases doc with
    | obj members =>
      obtain ⟨entries, hentries, rfl⟩ := Option.map_eq_some_iff.1
        (show (decodeMembers item.decode members).map Dict.ofList = some dict from h)
      have hfilled := decodeMembers_fill (item.decode_fill hnamed) hentries
      exact congrArg (Option.map Dict.ofList) hfilled
    | _ => cases h
  | .record heading fields, hnamed, doc, value, h => by
    have hnamed : decide (fields.names.Nodup ∧ fields.wellNamed = true) = true := hnamed
    obtain ⟨hnames, hfields⟩ := of_decide_eq_true hnamed
    cases doc with
    | obj members => exact fields.decode_fill hfields hnames members value h
    | arr items => exact h
    | _ => cases h

theorem Fields.decode_fill : (fields : Fields) → fields.wellNamed = true → fields.names.Nodup →
    (members : List (String × Json)) → (value : fields.Val) →
    fields.decode members = some value →
    fields.decode (fields.properties.fill members) = some value
  | .nil, _, _, _, _, h => h
  | .const name text checked rest, hnamed, hnames, members, value, h => by
    obtain ⟨hname, hrest⟩ := List.nodup_cons.1 hnames
    simp only [Fields.decode, Option.ite_none_left_eq_some] at h
    obtain ⟨hchecked, hothers⟩ := h
    have hget : Sorted.get? name (filledIn name none OpenApi.text.fill members) =
        Sorted.get? name members := by
      rw [get?_filledIn_self, Option.or_none]
      exact Option.map_id'
    rw [Fields.properties, Properties.fill_cons, Fields.decode,
      rest.get?_fill_of_not_mem hname, hget, if_neg hchecked]
    exact rest.decode_fill hnamed hrest _ value ((rest.decode_filledIn hname).trans hothers)
  | .field name presence shape rest, hnamed, hnames, members, value, h => by
    obtain ⟨hname, hrest⟩ := List.nodup_cons.1 hnames
    obtain ⟨hshape, hfields⟩ := Bool.and_eq_true_iff.1 hnamed
    simp only [Fields.decode, Option.pure_def, Option.bind_eq_bind, Option.bind_eq_some_iff] at h
    obtain ⟨first, hfirst, others, hothers, ⟨⟩⟩ := h
    -- The fields after this one are filled in later, under other names.
    have hself := presence.decode_filled shape.openApi.fill_eq_null_iff
      (shape.decode_fill hshape) hfirst
    have hthen := rest.decode_fill hfields hrest
      (filledIn name presence.declared shape.openApi.fill members) others
      ((rest.decode_filledIn hname).trans hothers)
    simp only [Fields.properties_field, Properties.fill_cons, Fields.decode,
      rest.get?_fill_of_not_mem hname, get?_filledIn_self, hself, hthen, Option.pure_def,
      Option.bind_eq_bind, Option.bind_some]

end

/-! ### What is filled in is admitted -/

mutual

/-- Whether every declared default is admitted by the schema beside it. -/
def OpenApi.admitsDefaults : OpenApi → Bool
  | .array items => items.admitsDefaults
  | .map values => values.admitsDefaults
  | .object properties => properties.admitsDefaults
  | .any | .text | .boolean | .integer _ | .choice _ => true

def Properties.admitsDefaults : Properties → Bool
  | .nil => true
  | .cons _ _ _ default schema rest =>
    default.all schema.accepts && schema.admitsDefaults && rest.admitsDefaults

end

lemma Fields.accepts_congr : (fields : Fields) → {members others : List (String × Json)} →
    (∀ name ∈ fields.names, Sorted.get? name members = Sorted.get? name others) →
    fields.properties.accepts members = fields.properties.accepts others
  | .nil, _, _, _ => rfl
  | .const name text checked rest, members, others, h => by
    rw [Fields.properties, Properties.accepts, Properties.accepts, h name List.mem_cons_self,
      rest.accepts_congr fun other ho => h other (List.mem_cons_of_mem _ ho)]
  | .field name presence shape rest, members, others, h => by
    rw [Fields.properties_field, Properties.accepts, Properties.accepts, h name List.mem_cons_self,
      rest.accepts_congr fun other ho => h other (List.mem_cons_of_mem _ ho)]

lemma Fields.accepts_filledIn (fields : Fields) {name : String} (h : name ∉ fields.names)
    {declared : Option Json} {fill : Json → Json} {members : List (String × Json)} :
    fields.properties.accepts (filledIn name declared fill members) =
      fields.properties.accepts members :=
  fields.accepts_congr fun _ hother => get?_filledIn_of_ne fun heq => h (heq ▸ hother)

/-- A property stays admitted when it is filled in. -/
lemma OpenApi.accepts_filled {schema : OpenApi} {required nullable : Bool} {declared : Option Json}
    (hdeclared : declared.all schema.accepts = true)
    (h : ∀ doc, schema.accepts doc = true → schema.accepts (schema.fill doc) = true)
    {doc : Option Json}
    (hdoc : (match doc with
      | none => !required
      | some doc => (nullable && doc = .null) || schema.accepts doc) = true) :
    (match (doc.or declared).map schema.fill with
      | none => !required
      | some doc => (nullable && doc = .null) || schema.accepts doc) = true := by
  cases doc with
  | none =>
    cases declared with
    | none => exact hdoc
    | some declared => exact Bool.or_eq_true_iff.2 (.inr (h declared hdeclared))
  | some doc =>
    rcases Bool.or_eq_true_iff.1 hdoc with hnull | hdoc
    · obtain ⟨hnullable, hnull⟩ := Bool.and_eq_true_iff.1 hnull
      have hfilled : schema.fill doc = .null :=
        (schema.fill_eq_null_iff doc).2 (of_decide_eq_true hnull)
      exact Bool.or_eq_true_iff.2
        (.inl (Bool.and_eq_true_iff.2 ⟨hnullable, decide_eq_true hfilled⟩))
    · exact Bool.or_eq_true_iff.2 (.inr (h doc hdoc))

mutual

/-- Filling in keeps a document admitted, if the declared defaults are. -/
theorem Shape.accepts_fill : (shape : Shape) → shape.wellNamed = true →
    shape.openApi.admitsDefaults = true → (doc : Json) → shape.openApi.accepts doc = true →
    shape.openApi.accepts (shape.openApi.fill doc) = true
  | .text, _, _, _, h | .flag, _, _, _, h | .int32, _, _, _, h | .int64, _, _, _, h
  | .instant, _, _, _, h | .intOrText, _, _, _, h | .free, _, _, _, h | .choice _ _, _, _, _, h
  | .hidden _, _, _, _, h => h
  | .list item, hnamed, hdefaults, doc, h => by
    cases doc with
    | arr docs =>
      refine List.all_eq_true.2 fun doc hdoc => ?_
      obtain ⟨source, hsource, rfl⟩ := List.mem_map.1 hdoc
      exact item.accepts_fill hnamed hdefaults source (List.all_eq_true.1 h source hsource)
    | _ => cases h
  | .dict item, hnamed, hdefaults, doc, h => by
    cases doc with
    | obj members =>
      refine List.all_eq_true.2 fun e he => ?_
      obtain ⟨source, hsource, rfl⟩ := List.mem_map.1 he
      exact item.accepts_fill hnamed hdefaults source.2 (List.all_eq_true.1 h source hsource)
    | _ => cases h
  | .record heading fields, hnamed, hdefaults, doc, h => by
    have hnamed : decide (fields.names.Nodup ∧ fields.wellNamed = true) = true := hnamed
    obtain ⟨hnames, hfields⟩ := of_decide_eq_true hnamed
    cases doc with
    | obj members => exact fields.accepts_fill hfields hnames hdefaults members h
    | _ => cases h

theorem Fields.accepts_fill : (fields : Fields) → fields.wellNamed = true → fields.names.Nodup →
    fields.properties.admitsDefaults = true → (members : List (String × Json)) →
    fields.properties.accepts members = true →
    fields.properties.accepts (fields.properties.fill members) = true
  | .nil, _, _, _, _, _ => rfl
  | .const name text checked rest, hnamed, hnames, hdefaults, members, h => by
    obtain ⟨hname, hrest⟩ := List.nodup_cons.1 hnames
    obtain ⟨hself, hothers⟩ := Bool.and_eq_true_iff.1 h
    obtain ⟨-, hrestDefaults⟩ := Bool.and_eq_true_iff.1 hdefaults
    rw [Fields.properties, Properties.fill_cons, Properties.accepts,
      rest.get?_fill_of_not_mem hname, get?_filledIn_self]
    have hdeclared : (none : Option Json).all OpenApi.text.accepts = true := rfl
    refine Bool.and_eq_true_iff.2 ⟨OpenApi.accepts_filled hdeclared (fun _ h => h) hself, ?_⟩
    exact rest.accepts_fill hnamed hrest hrestDefaults _
      ((rest.accepts_filledIn hname).trans hothers)
  | .field name presence shape rest, hnamed, hnames, hdefaults, members, h => by
    obtain ⟨hname, hrest⟩ := List.nodup_cons.1 hnames
    obtain ⟨hshape, hfields⟩ := Bool.and_eq_true_iff.1 hnamed
    rw [Fields.properties_field] at hdefaults h ⊢
    obtain ⟨hboth, hrestDefaults⟩ := Bool.and_eq_true_iff.1 hdefaults
    obtain ⟨hdeclared, hinner⟩ := Bool.and_eq_true_iff.1 hboth
    obtain ⟨hself, hothers⟩ := Bool.and_eq_true_iff.1 h
    rw [Properties.fill_cons, Properties.accepts, rest.get?_fill_of_not_mem hname,
      get?_filledIn_self]
    refine Bool.and_eq_true_iff.2
      ⟨OpenApi.accepts_filled hdeclared (shape.accepts_fill hshape hinner) hself, ?_⟩
    exact rest.accepts_fill hfields hrest hrestDefaults _
      ((rest.accepts_filledIn hname).trans hothers)

end

/-! ### Resources -/

section Resource

variable {heading : Heading} {apiVersion kind : String} {described : Fields}

abbrev Fields.resource (apiVersion kind : String) (described : Fields) : Fields :=
  .const "apiVersion" apiVersion false <| .const "kind" kind false <|
  must "metadata" (Record.shape Kube.ObjectMeta) described

abbrev Shape.resource (heading : Heading) (apiVersion kind : String) (described : Fields) : Shape :=
  .record heading (.resource apiVersion kind described)

lemma nodup_names_resource
    (h : (Shape.resource heading apiVersion kind described).wellNamed = true) :
    (Fields.resource apiVersion kind described).names.Nodup ∧ described.wellNamed = true := by
  obtain ⟨hnames, hfields⟩ := of_decide_eq_true (show decide (_ ∧ _) = true from h)
  simp only [Fields.wellNamed, Bool.and_eq_true] at hfields
  exact ⟨hnames, hfields.2⟩

lemma Shape.accepts_encode_resource
    (h : (Shape.resource heading apiVersion kind described).wellNamed = true)
    (value : (Shape.resource heading apiVersion kind described).Val) :
    (OpenApi.object described.properties).accepts
      ((Shape.resource heading apiVersion kind described).encode value) = true := by
  obtain ⟨hnames, hdescribed⟩ := nodup_names_resource h
  refine described.accepts_encode hdescribed
    (hnames.sublist (List.sublist_append_right [_, _, _] _)) value.2 _ fun name hname => ?_
  have hne : "apiVersion" ≠ name ∧ "kind" ≠ name ∧ "metadata" ≠ name := by
    refine ⟨?_, ?_, ?_⟩ <;> rintro rfl <;> simp [Fields.names, hname] at hnames
  refine (Fields.get?_object_encode hnames value name).trans ?_
  simp [Fields.encode, Presence.encode, Sorted.get?, hne]

lemma Shape.decode_fill_resource
    (h : (Shape.resource heading apiVersion kind described).wellNamed = true) {doc : Json}
    {value : (Shape.resource heading apiVersion kind described).Val}
    (hread : (Shape.resource heading apiVersion kind described).decode doc = some value) :
    (Shape.resource heading apiVersion kind described).decode
      ((OpenApi.object described.properties).fill doc) = some value := by
  obtain ⟨hnames, hdescribed⟩ := nodup_names_resource h
  cases doc with
  | obj members =>
    have hmetadata : "metadata" ∉ described.names := by
      intro hmem
      simp [Fields.names, hmem] at hnames
    simp only [Shape.decode, Fields.decode, Bool.false_eq_true, false_and, if_false,
      Option.pure_def, Option.bind_eq_bind, Option.bind_eq_some_iff] at hread
    obtain ⟨first, hfirst, others, hothers, ⟨⟩⟩ := hread
    have hthen := described.decode_fill hdescribed
      (hnames.sublist (List.sublist_append_right [_, _, _] _)) members others hothers
    simp only [OpenApi.fill, Shape.decode, Fields.decode, Bool.false_eq_true, false_and, if_false,
      described.get?_fill_of_not_mem hmetadata, hfirst, hthen, Option.pure_def,
      Option.bind_eq_bind, Option.bind_some]
  | arr items => exact hread
  | _ => cases hread

end Resource

namespace Definition

lemma schema_postgres : postgres.schema = .object (must "spec" (Record.shape PostgresSpec) <|
    opt "status" (Record.shape PostgresStatus) .nil).properties := rfl

lemma schema_postgresVersion : postgresVersion.schema =
    .object (must "spec" (Record.shape PostgresVersionSpec) .nil).properties := rfl

/-- What the schemas admit is admitted after the declared defaults were filled in. -/
theorem accepts_fill (doc : Json) :
    (postgres.schema.accepts doc = true →
      postgres.schema.accepts (postgres.schema.fill doc) = true) ∧
    (postgresVersion.schema.accepts doc = true →
      postgresVersion.schema.accepts (postgresVersion.schema.fill doc) = true) := by
  rw [schema_postgres, schema_postgresVersion]
  constructor <;> intro h
  · cases doc with
    | obj members =>
      exact Fields.accepts_fill _ (nodup_names_resource wellNamed_postgres).2 (by decide)
        (by decide +kernel) members h
    | _ => cases h
  · cases doc with
    | obj members =>
      exact Fields.accepts_fill _ (nodup_names_resource wellNamed_postgresVersion).2 (by decide)
        (by decide +kernel) members h
    | _ => cases h

/-- **The schema and the codec agree**: the written form of every instance, and of every entry of
the catalog, passes the check of the schema that its definition declares, and a document that reads
carries the same value after the declared defaults were filled in. -/
theorem schemas_describe_codec :
    ((∀ db : Postgres, postgres.schema.accepts (Record.encode db) = true) ∧
      ∀ (doc : Json) (db : Postgres), Record.decode doc = some db →
        Record.decode (postgres.schema.fill doc) = some db) ∧
    (∀ version : PostgresVersion, postgresVersion.schema.accepts (Record.encode version) = true) ∧
      ∀ (doc : Json) (version : PostgresVersion), Record.decode doc = some version →
        Record.decode (postgresVersion.schema.fill doc) = some version := by
  rw [schema_postgres, schema_postgresVersion]
  refine ⟨⟨fun db => ?_, fun doc db h => ?_⟩, fun version => ?_, fun doc version h => ?_⟩
  · exact Shape.accepts_encode_resource wellNamed_postgres (Record.toVal db)
  · obtain ⟨value, hvalue, rfl⟩ := Option.map_eq_some_iff.1 h
    exact Option.map_eq_some_iff.2
      ⟨value, Shape.decode_fill_resource wellNamed_postgres hvalue, rfl⟩
  · exact Shape.accepts_encode_resource wellNamed_postgresVersion (Record.toVal version)
  · obtain ⟨value, hvalue, rfl⟩ := Option.map_eq_some_iff.1 h
    exact Option.map_eq_some_iff.2
      ⟨value, Shape.decode_fill_resource wellNamed_postgresVersion hvalue, rfl⟩

theorem schemas_describe_codec_restored :
    (∃ db : Postgres, Record.decode restoredDocument = some db ∧
      postgres.schema.fill restoredDocument ≠ restoredDocument ∧
      Record.decode (postgres.schema.fill restoredDocument) = some db) ∧
    ∃ version : PostgresVersion, Record.decode releaseDocument = some version ∧
      postgresVersion.schema.fill releaseDocument ≠ releaseDocument ∧
      Record.decode (postgresVersion.schema.fill releaseDocument) = some version := by
  constructor
  · have hread : (Record.decode restoredDocument : Option Postgres).isSome = true := by
      decide +kernel
    obtain ⟨db, hdb⟩ := Option.isSome_iff_exists.1 hread
    exact ⟨db, hdb, by decide +kernel, schemas_describe_codec.1.2 restoredDocument db hdb⟩
  · have hread : (Record.decode releaseDocument : Option PostgresVersion).isSome = true := by
      decide +kernel
    obtain ⟨version, hversion⟩ := Option.isSome_iff_exists.1 hread
    exact ⟨version, hversion, by decide +kernel,
      schemas_describe_codec.2.2 releaseDocument version hversion⟩

end Definition

end PgOperator
