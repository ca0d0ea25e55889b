import Mathlib.Tactic.Lemma
import PgOperator.Database.Instance
import PgOperator.Database.Version
import PgOperator.Proofs.Schema

/-!
Rewriting what was read.

A declared instance, or an entry of the catalog, that was read from any document is written as a
document that reads again and is rewritten as it is. It reads as the same value where the first
document has whole seconds only: fractions are all that is lost (`resources_round_trip`).
-/

namespace PgOperator

/-! ### Documents with whole seconds -/

/-- The document that a field is read from, given what stands under its name. -/
def Presence.source : Presence → Option Json → Option Json
  | .defaulted document _, doc => some (doc.getD document)
  | .optional, doc | .lenient, doc | .strict, doc | .nullable, doc => doc

mutual

/-- Whether no point in time that is read from the document has a fraction of a second. -/
def Shape.wholeSeconds : Shape → Json → Bool
  | .instant, doc => match doc with
    | .str s => (Instant.ofText? s).all fun t => t.nanos = 0
    | _ => true
  | .list item, doc => match doc with | .arr items => items.all item.wholeSeconds | _ => true
  | .dict item, doc => match doc with
    | .obj members => members.all fun e => item.wholeSeconds e.2
    | _ => true
  | .record _ fields, doc => match doc with
    | .obj members => fields.wholeSeconds members
    | .arr items => fields.wholeSecondsListed items
    | _ => true
  | .hidden shape, doc => shape.wholeSeconds doc
  | .text, _ | .flag, _ | .int32, _ | .int64, _ | .intOrText, _ | .free, _ | .choice _ _, _ => true

def Fields.wholeSeconds : Fields → List (String × Json) → Bool
  | .nil, _ => true
  | .const _ _ _ rest, members => rest.wholeSeconds members
  | .field name presence shape rest, members =>
    (presence.source (Sorted.get? name members)).all shape.wholeSeconds &&
      rest.wholeSeconds members

def Fields.wholeSecondsListed : Fields → List Json → Bool
  | .nil, _ => true
  | .const _ _ _ rest, items => rest.wholeSecondsListed items
  | .field _ presence shape rest, items =>
    (presence.source items.head?).all shape.wholeSeconds && rest.wholeSecondsListed items.tail

end

/-! ### Nothing else is dropped -/

section Parts

variable {α : Type} {read : Json → Option α}

lemma exists_of_mem_decodeItems {items : List Json} {values : List α}
    (h : decodeItems read items = some values) {value : α} (hvalue : value ∈ values) :
    ∃ doc ∈ items, read doc = some value := by
  induction items generalizing values with
  | nil =>
    cases h
    cases hvalue
  | cons item rest ih =>
    simp only [decodeItems, Option.pure_def, Option.bind_eq_bind, Option.bind_eq_some_iff] at h
    obtain ⟨first, hfirst, others, hothers, ⟨⟩⟩ := h
    rcases List.mem_cons.1 hvalue with rfl | hvalue
    · exact ⟨item, List.mem_cons_self, hfirst⟩
    · obtain ⟨doc, hdoc, hread⟩ := ih hothers hvalue
      exact ⟨doc, List.mem_cons_of_mem _ hdoc, hread⟩

lemma exists_of_mem_decodeMembers {members : List (String × Json)} {entries : List (String × α)}
    (h : decodeMembers read members = some entries) {e : String × α} (he : e ∈ entries) :
    ∃ member ∈ members, read member.2 = some e.2 := by
  induction members generalizing entries with
  | nil =>
    cases h
    cases he
  | cons member rest ih =>
    simp only [decodeMembers, Option.pure_def, Option.bind_eq_bind, Option.bind_eq_some_iff] at h
    obtain ⟨first, hfirst, others, hothers, ⟨⟩⟩ := h
    rcases List.mem_cons.1 he with rfl | he
    · exact ⟨member, List.mem_cons_self, hfirst⟩
    · obtain ⟨other, hother, hread⟩ := ih hothers he
      exact ⟨other, List.mem_cons_of_mem _ hother, hread⟩

/-- The value of a field that something stands in. -/
def Presence.of (value : α) : (presence : Presence) → presence.Val α
  | .optional => some value
  | .lenient | .strict | .nullable | .defaulted _ _ => value

lemma Presence.decode_eq_some {least : α} {presence : Presence} {doc : Option Json}
    {value : presence.Val α} (h : presence.decode read least doc = some value) :
    value = presence.zero least ∨ ∃ source item, presence.source doc = some source ∧
      read source = some item ∧ value = presence.of item := by
  unfold decode at h
  split at h
  case h_3 doc _ =>
    obtain ⟨item, hitem, rfl⟩ := Option.map_eq_some_iff.1 h
    exact .inr ⟨doc, item, rfl, hitem, rfl⟩
  case h_1 | h_2 | h_4 | h_5 | h_9 => exact .inl (Option.some.inj h).symm
  case h_7 | h_8 => cases h
  all_goals exact .inr ⟨_, value, rfl, h, rfl⟩

lemma Presence.decode_of_decodeItem {least : α} {presence : Presence} {item : Option Json}
    {value : presence.Val α} (h : presence.decodeItem read least item = some value) :
    presence.decode read least item = some value := by
  unfold decodeItem at h
  split at h
  · cases h
  · cases h
  · exact h

variable {f : α → α} {p : Json → Bool}

lemma Presence.map_of_decode {least : α} (hleast : f least = least)
    (h : ∀ doc value, read doc = some value → p doc = true → f value = value)
    {presence : Presence} {doc : Option Json} {value : presence.Val α}
    (hread : presence.decode read least doc = some value)
    (hp : (presence.source doc).all p = true) : presence.map f value = value := by
  obtain rfl | ⟨source, item, hsource, hitem, rfl⟩ := decode_eq_some hread
  · cases presence <;> simp [map, zero, hleast]
  · rw [hsource] at hp
    cases presence <;> simp [map, of, h source item hitem hp]

end Parts

mutual

/-- What is read from a document with whole seconds has whole seconds. -/
theorem Shape.whole_of_decode : (shape : Shape) → (doc : Json) → (value : shape.Val) →
    shape.decode doc = some value → shape.wholeSeconds doc = true → shape.whole value = value
  | .text, _, _, _, _ | .flag, _, _, _, _ | .int32, _, _, _, _ | .int64, _, _, _, _ => rfl
  | .intOrText, _, _, _, _ | .free, _, _, _, _ | .choice _ _, _, _, _, _ => rfl
  -- A point in time is where the condition on the document is used.
  | .instant, doc, t, h, hwhole => by
    cases doc with
    | str s =>
      have hread : Instant.ofText? s = some t := h
      have hnanos : t.nanos = 0 := by simpa [Shape.wholeSeconds, hread] using hwhole
      cases t
      cases hnanos
      rfl
    | _ => cases h
  | .list item, doc, values, h, hwhole => by
    cases doc with
    | arr items =>
      have hall := List.all_eq_true.1 (show items.all item.wholeSeconds = true from hwhole)
      refine (List.map_congr_left fun value hvalue => ?_).trans (List.map_id values)
      obtain ⟨doc, hdoc, hread⟩ := exists_of_mem_decodeItems h hvalue
      exact item.whole_of_decode doc value hread (hall doc hdoc)
    | _ => cases h
  | .dict item, doc, dict, h, hwhole => by
    cases doc with
    | obj members =>
      have hall := List.all_eq_true.1
        (show (members.all fun e => item.wholeSeconds e.2) = true from hwhole)
      obtain ⟨entries, hentries, rfl⟩ := Option.map_eq_some_iff.1
        (show (decodeMembers item.decode members).map Dict.ofList = some dict from h)
      refine Dict.ext ((List.map_congr_left fun e he => ?_).trans (List.map_id _))
      obtain ⟨member, hmember, hread⟩ :=
        exists_of_mem_decodeMembers hentries (Sorted.mem_of_mem_ofList he)
      exact congrArg (e.1, ·) (item.whole_of_decode member.2 e.2 hread (hall member hmember))
    | _ => cases h
  | .record heading fields, doc, value, h, hwhole => by
    cases doc with
    | obj members => exact fields.whole_of_decode members value h hwhole
    | arr items =>
      have h : (if heading.form = .exact then fields.decodeListed items else none) = some value := h
      split at h
      · exact fields.whole_of_decodeListed items value h hwhole
      · cases h
    | _ => cases h
  | .hidden shape, doc, value, h, hwhole => shape.whole_of_decode doc value h hwhole

theorem Fields.whole_of_decode : (fields : Fields) → (members : List (String × Json)) →
    (value : fields.Val) → fields.decode members = some value →
    fields.wholeSeconds members = true → fields.whole value = value
  | .nil, _, _, _, _ => rfl
  | .const name text checked rest, members, value, h, hwhole => by
    simp only [Fields.decode, Option.ite_none_left_eq_some] at h
    exact rest.whole_of_decode members value h.2 hwhole
  | .field name presence shape rest, members, value, h, hwhole => by
    simp only [Fields.decode, Option.pure_def, Option.bind_eq_bind, Option.bind_eq_some_iff] at h
    obtain ⟨first, hfirst, others, hothers, ⟨⟩⟩ := h
    obtain ⟨hdoc, hrest⟩ := Bool.and_eq_true_iff.1 hwhole
    exact congrArg₂ Prod.mk
      (Presence.map_of_decode shape.whole_zero shape.whole_of_decode hfirst hdoc)
      (rest.whole_of_decode members others hothers hrest)

theorem Fields.whole_of_decodeListed : (fields : Fields) → (items : List Json) →
    (value : fields.Val) → fields.decodeListed items = some value →
    fields.wholeSecondsListed items = true → fields.whole value = value
  | .nil, _, _, _, _ => rfl
  | .const _ _ _ rest, items, value, h, hwhole => rest.whole_of_decodeListed items value h hwhole
  | .field name presence shape rest, items, value, h, hwhole => by
    simp only [Fields.decodeListed, Option.pure_def, Option.bind_eq_bind,
      Option.bind_eq_some_iff] at h
    obtain ⟨first, hfirst, others, hothers, ⟨⟩⟩ := h
    obtain ⟨hdoc, hrest⟩ := Bool.and_eq_true_iff.1 hwhole
    exact congrArg₂ Prod.mk
      (Presence.map_of_decode shape.whole_zero shape.whole_of_decode
        (Presence.decode_of_decodeItem hfirst) hdoc)
      (rest.whole_of_decodeListed items.tail others hothers hrest)

end

namespace Record

variable {α : Type} [Record α]

/-- What was read is written as a document that reads again, and is rewritten as it is. -/
lemma rereads (h : (shape α).wellNamed = true) {doc : Json} {value : α}
    (hread : decode doc = some value) :
    ∃ again, decode (encode value) = some again ∧ encode again = encode value ∧
      ((shape α).wholeSeconds doc = true → again = value) := by
  refine ⟨whole value, decode_encode h value, encode_whole value, fun hwhole => ?_⟩
  obtain ⟨inner, hinner, rfl⟩ := Option.map_eq_some_iff.1 hread
  have hsame := (shape α).whole_of_decode doc inner hinner hwhole
  rw [whole, toVal_ofVal]
  exact congrArg ofVal hsame

end Record

lemma wellNamed_postgres : (Record.shape Postgres).wellNamed = true := by decide +kernel

lemma wellNamed_postgresVersion : (Record.shape PostgresVersion).wellNamed = true := by
  decide +kernel

/-- **Rewriting**: what was read as an instance, or as an entry of the catalog, is written as a
document that reads again and is rewritten as it is. It reads as the same value if the first
document has whole seconds only. -/
theorem resources_round_trip :
    (∀ (doc : Json) (db : Postgres), Record.decode doc = some db →
      ∃ again : Postgres, Record.decode (Record.encode db) = some again ∧
        Record.encode again = Record.encode db ∧
        ((Record.shape Postgres).wholeSeconds doc = true → again = db)) ∧
    ∀ (doc : Json) (version : PostgresVersion), Record.decode doc = some version →
      ∃ again : PostgresVersion, Record.decode (Record.encode version) = some again ∧
        Record.encode again = Record.encode version ∧
        ((Record.shape PostgresVersion).wholeSeconds doc = true → again = version) :=
  ⟨fun _ _ => Record.rereads wellNamed_postgres,
    fun _ _ => Record.rereads wellNamed_postgresVersion⟩

/-- A fraction of a second would be lost. -/
example : Shape.instant.wholeSeconds (.str "2024-05-01T10:00:00.5Z") = false := rfl

/-- An instance that is restored from an archive up to a transaction. Some of its defaults are
spelt out, others are left to the reader. -/
def restoredDocument : Json :=
  .obj [("metadata", .obj [("creationTimestamp", .str "2024-05-01T12:00:00+02:00"),
      ("name", .str "pg")]),
    ("spec", .obj [("init", .obj [("postgresWAL", .obj [
        ("pitr", .obj [("targetInclusive", .bool true), ("targetXID", .str "7")]),
        ("s3", .obj [("bucket", .str "b")])])]),
      ("podTemplate", .obj []), ("storageType", .str "Ephemeral"), ("version", .str "16.1")]),
    ("status", .obj [("conditions", .arr [])])]

/-- A release, its database image given as a list of the fields. -/
def releaseDocument : Json :=
  .obj [("metadata", .obj [("name", .str "16.1")]),
    ("spec", .obj [("db", .arr [.str "postgres:16"]), ("exporter", .obj [("image", .str "e")]),
      ("version", .str "16.1")])]

theorem resources_round_trip_restored :
    (∃ db : Postgres, Record.decode restoredDocument = some db ∧
      Record.encode db ≠ restoredDocument ∧ Record.decode (Record.encode db) = some db) ∧
    ∃ version : PostgresVersion, Record.decode releaseDocument = some version ∧
      Record.decode (Record.encode version) = some version := by
  constructor
  · have hread : ((Record.decode restoredDocument : Option Postgres).any fun db =>
        Record.encode db ≠ restoredDocument) = true := by decide +kernel
    obtain ⟨db, hdb, hchanged⟩ := (Option.any_eq_true _ _).1 hread
    obtain ⟨again, hagain, -, hsame⟩ := resources_round_trip.1 restoredDocument db hdb
    have : again = db := hsame (by decide +kernel)
    exact ⟨db, hdb, of_decide_eq_true hchanged, this ▸ hagain⟩
  · have hread : (Record.decode releaseDocument : Option PostgresVersion).isSome = true := by
      decide +kernel
    obtain ⟨version, hversion⟩ := Option.isSome_iff_exists.1 hread
    obtain ⟨again, hagain, -, hsame⟩ := resources_round_trip.2 releaseDocument version hversion
    have : again = version := hsame (by decide +kernel)
    exact ⟨version, hversion, this ▸ hagain⟩

end PgOperator
