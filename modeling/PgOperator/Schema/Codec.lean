import PgOperator.Schema.Shape

/-!
Reading and writing documents by their shape. `Shape.decode` gives the value that a document
carries, or `none` if it does not have the shape; `Shape.encode` writes a value. A field's absence
is read as its `Presence` says, members that no field names are ignored. What can stand as a list
or as the key of an object besides its usual form is read in either form and written in the usual.
-/

namespace PgOperator

def decodeItems {α : Type} (decode : Json → Option α) : List Json → Option (List α)
  | [] => some []
  | item :: rest => do return (← decode item) :: (← decodeItems decode rest)

def decodeMembers {α : Type} (decode : Json → Option α) :
    List (String × Json) → Option (List (String × α))
  | [] => some []
  | (key, value) :: rest => do return (key, ← decode value) :: (← decodeMembers decode rest)

def decodeInt32 : Json → Option Int32
  | .int n =>
    if Int32.minValue.toInt ≤ n ∧ n ≤ Int32.maxValue.toInt then some (Int32.ofInt n) else none
  | _ => none

def decodeInt64 : Json → Option Int64
  | .int n =>
    if Int64.minValue.toInt ≤ n ∧ n ≤ Int64.maxValue.toInt then some (Int64.ofInt n) else none
  | _ => none

def decodeIntOrText : Json → Option IntOrText
  | .str s => some (.text s)
  | doc => (decodeInt32 doc).map .int

def IntOrText.encode : IntOrText → Json
  | .int n => .int n.toInt
  | .text s => .str s

namespace Presence

variable {α : Type}

/-- Reads a field, given what stands under its name. -/
def decode (read : Json → Option α) (least : α) : (presence : Presence) → Option Json →
    Option (presence.Val α)
  | .optional, none | .optional, some .null => some none
  | .optional, some doc => (read doc).map some
  | .lenient, none | .lenient, some .null => some least
  | .lenient, some doc => read doc
  | .strict, none | .nullable, none => none
  | .nullable, some .null => some least
  | .strict, some doc | .nullable, some doc => read doc
  | .defaulted document _, none => read document
  | .defaulted _ _, some doc => read doc

/-- Reads a field from its place in a list. At the end of the list only a default helps. -/
def decodeItem (read : Json → Option α) (least : α) (presence : Presence) (item : Option Json) :
    Option (presence.Val α) :=
  match presence, item with
  | .optional, none | .lenient, none => none
  | presence, item => presence.decode read least item

/-- Writes a field: no member or one. -/
def encode (write : α → Json) (name : String) : (presence : Presence) → presence.Val α →
    List (String × Json)
  | .optional, none => []
  | .optional, some value => [(name, write value)]
  | .lenient, value | .strict, value | .nullable, value => [(name, write value)]
  | .defaulted document hidden, value =>
    if hidden ∧ write value = document then [] else [(name, write value)]

end Presence

mutual

/-- The value that a document of the shape carries. -/
def Shape.decode : (shape : Shape) → Json → Option shape.Val
  | .text, doc => match doc with | .str s => some s | _ => none
  | .flag, doc => match doc with | .bool b => some b | _ => none
  | .int32, doc => decodeInt32 doc
  | .int64, doc => decodeInt64 doc
  | .instant, doc => match doc with | .str s => Instant.ofText? s | _ => none
  | .intOrText, doc => decodeIntOrText doc
  | .free, doc => doc.present?
  | .choice first others, doc => match doc with
    | .str s | .obj [(s, .null)] => if h : s ∈ first :: others then some ⟨s, h⟩ else none
    | _ => none
  | .list item, doc => match doc with | .arr items => decodeItems item.decode items | _ => none
  | .dict item, doc => match doc with
    | .obj members => (decodeMembers item.decode members).map Dict.ofList
    | _ => none
  | .record heading fields, doc => match doc with
    | .obj members => fields.decode members
    | .arr items => if heading.form = .exact then fields.decodeListed items else none
    | _ => none
  | .hidden shape, doc => shape.decode doc

/-- The values of a record's fields, from the members of an object. -/
def Fields.decode : (fields : Fields) → List (String × Json) → Option fields.Val
  | .nil, _ => some ()
  | .const name text checked rest, members =>
    if checked ∧ ((Sorted.get? name members).getD (.str text) ≠ .str text) then none
    else rest.decode members
  | .field name presence shape rest, members => do
    return (← presence.decode shape.decode shape.zero (Sorted.get? name members),
      ← rest.decode members)

/-- The values of a record's fields, one after the other from the items of a list. -/
def Fields.decodeListed : (fields : Fields) → List Json → Option fields.Val
  | .nil, items => if items.isEmpty then some () else none
  | .const _ _ _ rest, items => rest.decodeListed items
  | .field _ presence shape rest, items => do
    return (← presence.decodeItem shape.decode shape.zero items.head?,
      ← rest.decodeListed items.tail)

end

mutual

/-- The written form of a value. -/
def Shape.encode : (shape : Shape) → shape.Val → Json
  | .text, s => .str s
  | .flag, b => .bool b
  | .int32, n => .int n.toInt
  | .int64, n => .int n.toInt
  | .instant, t => .str t.text
  | .intOrText, v => v.encode
  | .free, doc => doc.1
  | .choice _ _, name => .str name.1
  | .list item, items => .arr (items.map item.encode)
  | .dict item, dict => .obj (dict.entries.map fun e => (e.1, item.encode e.2))
  | .record _ fields, value => Json.object (fields.encode value)
  | .hidden shape, value => shape.encode value

/-- The members that a record's fields are written as. -/
def Fields.encode : (fields : Fields) → fields.Val → List (String × Json)
  | .nil, _ => []
  | .const name text _ rest, value => (name, .str text) :: rest.encode value
  | .field name presence shape rest, value =>
    presence.encode shape.encode name value.1 ++ rest.encode value.2

end

end PgOperator
