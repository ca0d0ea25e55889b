import PgOperator.Json.Document
import PgOperator.Schema.Codec
import PgOperator.Schema.Record

/-!
Reading texts by the shape of the document that they should spell. `Shape.read` reads a value from
left to right and complains of the first thing that does not have the shape; `Record.ofText` reads
a structure from a whole text.

A record is read member by member into a `Fields.Partial`, which `Fields.finish` completes by what
absence means. Members that no field names are passed over.
-/

namespace PgOperator

open Json (Reader Complaint Found maxDepth)
open Json.Reader

/-- The values of those fields that have been read so far. -/
@[reducible] def Fields.Partial : Fields → Type
  | .nil => Unit
  | .const _ _ _ rest => rest.Partial
  | .field _ presence shape rest => Option (presence.Val shape.Val) × rest.Partial

namespace Fields

def noneRead : (fields : Fields) → fields.Partial
  | .nil => ()
  | .const _ _ _ rest => rest.noneRead
  | .field _ _ _ rest => (none, rest.noneRead)

/-- Whether the field of a name has been read. -/
def hasRead (key : String) : (fields : Fields) → fields.Partial → Bool
  | .nil, _ => false
  | .const _ _ _ rest, done => rest.hasRead key done
  | .field name _ _ rest, (value, done) => (name = key && value.isSome) || rest.hasRead key done

/-- The number of values in a list of the fields. -/
def count : Fields → Nat
  | .nil => 0
  | .const _ _ _ rest => rest.count
  | .field _ _ _ rest => rest.count + 1

/-- How a list of the fields is described. -/
def listing (title : String) (fields : Fields) : String :=
  title ++ " with " ++ toString fields.count ++
    if fields.count = 1 then " element" else " elements"

end Fields

namespace Presence

variable {α : Type}

def read (reader : Reader α) (least : α) : (presence : Presence) → Reader (presence.Val α)
  | .optional => do if ← passNull then pure none else some <$> reader
  | .lenient | .nullable => do if ← passNull then pure least else reader
  | .strict | .defaulted _ _ => reader

/-- The value of a field that may not have been read. -/
def finish (decode : Json → Option α) (least : α) (name : String) :
    (presence : Presence) → Option (presence.Val α) → Except Complaint (presence.Val α)
  | _, some value => .ok value
  | .optional, none => .ok none
  | .lenient, none => .ok least
  | .strict, none | .nullable, none => .error (.missing name)
  | .defaulted document _, none => .ok ((decode document).getD least)

/-- The value of a field that a list is too short for; `complaint` tells of its length. -/
def finishItem (decode : Json → Option α) (least : α) (complaint : Complaint) :
    (presence : Presence) → Except Complaint (presence.Val α)
  | .defaulted document _ => .ok ((decode document).getD least)
  | .optional | .lenient | .strict | .nullable => .error complaint

end Presence

/-- Completes what has been read of a record; fields are missed in their order. -/
def Fields.finish : (fields : Fields) → fields.Partial → Except Complaint fields.Val
  | .nil, _ => .ok ()
  | .const _ _ _ rest, done => rest.finish done
  | .field name presence shape rest, (value, done) => do
    return (← presence.finish shape.decode shape.zero name value, ← rest.finish done)

namespace Json.Reader

variable {α : Type}

/-- Reads a text; `expected` says what it is a text of. -/
def textOf (expected : String) : Reader String := do
  match ← peekToken with
  | some '"' =>
    eat
    quoted
  | none => failAhead .endInValue
  | some _ => mistype expected

def flag : Reader Bool := do
  match ← peekToken with
  | some 't' =>
    eat
    word ['r', 'u', 'e']
    pure true
  | some 'f' =>
    eat
    word ['a', 'l', 's', 'e']
    pure false
  | none => failAhead .endInValue
  | some _ => mistype "a boolean"

/-- Whether a value that begins with a character is a number. -/
def beginsNumber (c : Char) : Bool := c = '-' || c.isDigit

/-- Reads an integer between two bounds. -/
def integer (least greatest : Int) (expected : String) : Reader Int := do
  match ← peekToken with
  | none => failAhead .endInValue
  | some c =>
    if beginsNumber c then
      match ← scalar c with
      | .int n =>
        if least ≤ n ∧ n ≤ greatest then pure n else complain (.wrongValue (.int n) expected)
      | found => complain (.wrongType found expected)
    else mistype expected

def instant : Reader Instant := do
  match Instant.ofText (← textOf "an RFC 3339 formatted date and time string") with
  | .ok instant => pure instant
  | .error fault => complain (.instant fault)

/-- What is expected where a number or a text is. -/
def intOrTextTitle : String := "enum IntOrString"

def intOrText (room : Nat) : Reader IntOrText := do
  match ← peekToken with
  | none => failAhead .endInValue
  | some '[' => enter room fun _ => complainOfList (.wrongType .list intOrTextTitle)
  | some '\x7b' => enter room fun _ => complainOfObject (.wrongType .object intOrTextTitle)
  | some c =>
    match ← scalar c with
    | .str s => pure (.text s)
    | .int n =>
      match decodeInt32 (.int n) with
      | some n => pure (.int n)
      | none => complain (.wrongValue (.int n) "a 32-bit integer")
    | found => complain (.wrongType found intOrTextTitle)

/-- Reads one of some names, which may also stand as the only key of an object, over `null`. -/
def choice (first : String) (others : List String) (room : Nat) :
    Reader { name : String // name ∈ first :: others } := do
  let named (name : String) : Reader { name : String // name ∈ first :: others } :=
    if h : name ∈ first :: others then pure ⟨name, h⟩
    else complain (.unknownName name (first :: others))
  match ← peekToken with
  | none => failAhead .endInValue
  | some '"' => named (← textOf "variant identifier")
  | some '\x7b' => enter room fun _ => do
    let name ← named (← textOf "variant identifier")
    colon
    if !(← passNull) then mistype "unit"
    match ← peekToken with
    | some '\x7d' =>
      eat
      pure name
    | some _ => failHere .noValue
    | none => failHere .endInObject
  | some _ => failAhead .noValue

/-- Reads a document that is not `null`. -/
def present (room : Nat) : Reader Json.Present := do
  match (← document room).present? with
  | some doc => pure doc
  | none => failHere .noValue

/-- Reads a text that has to be the given one. -/
def constant (text : String) : Reader Unit := do
  let given ← textOf "a string"
  if given ≠ text then complainOfObject (.wrongValue (.str given) text)

/-- Reads the members of a record, whose opening bracket has been taken. `read` takes the value
under a key. -/
def record (heading : Heading) (fields : Fields) (room : Nat)
    (read : String → fields.Partial → Reader fields.Partial) : Reader fields.Val := do
  let done ← walk (fun key done => do
    if heading.form ≠ .loose ∧ fields.hasRead key done then
      complainOfObject (.repeated key)
    colon
    match heading.form with
    | .gathered own =>
      if key ∉ own then
        let _ ← lookAhead (document room)
      read key done
    | .loose | .exact => read key done) fields.noneRead
  match fields.finish done with
  | .ok value =>
    closeObject
    pure value
  | .error complaint => complainOfObject complaint

/-- Reads a record, from its members or from a list where its form has one. -/
def recordOrList (heading : Heading) (room : Nat) (members list : Nat → Reader α) : Reader α := do
  match ← peekToken with
  | none => failAhead .endInValue
  | some '\x7b' => enter room members
  | some '[' =>
    match heading.form with
    | .loose => enter room fun _ => complainOfList (.wrongType .list heading.title)
    | .exact => enter room fun room => list room <* closeList
    | .gathered _ => mistype heading.title
  | some _ => mistype heading.title

end Json.Reader

mutual

/-- Reads a value of a shape in which containers nest no deeper than `room`. -/
def Shape.read : (shape : Shape) → (room : Nat) → Reader shape.Val
  | .text, _ => textOf "a string"
  | .flag, _ => flag
  | .int32, _ => Int32.ofInt <$> integer Int32.minValue.toInt Int32.maxValue.toInt "i32"
  | .int64, _ => Int64.ofInt <$> integer Int64.minValue.toInt Int64.maxValue.toInt "i64"
  | .instant, _ => instant
  | .intOrText, room => intOrText room
  | .free, room => present room
  | .choice first others, room => choice first others room
  | .list item, room => list room fun room => item.read room
  | .dict item, room => Dict.ofList <$> dict room fun room => item.read room
  | .record heading fields, room => recordOrList heading room
      (fun room => record heading fields room (fields.readMember room))
      (fun room => fields.readListed (fields.listing heading.title) room 0)
  | .hidden shape, room => shape.read room

/-- Reads the value under a key, into the field of that name if there is one. -/
def Fields.readMember : (fields : Fields) → (room : Nat) → (key : String) → fields.Partial →
    Reader fields.Partial
  | .nil, _, _, _ => pass
  | .const name text checked rest, room, key, done => do
    if checked ∧ name = key then
      constant text
      pure done
    else rest.readMember room key done
  | .field name presence shape rest, room, key, (value, done) => do
    if name = key then
      return (some (← presence.read (shape.read room) shape.zero), done)
    else return (value, ← rest.readMember room key done)

/-- Reads the values of fields from the items of a list, of which some have been read. -/
def Fields.readListed : (fields : Fields) → (expected : String) → (room : Nat) → (index : Nat) →
    Reader fields.Val
  | .nil, _, _, _ => pure ()
  | .const _ _ _ rest, expected, room, index => rest.readListed expected room index
  | .field _ presence shape rest, expected, room, index => do
    let value ← if ← nextItem (index = 0) then presence.read (shape.read room) shape.zero else
      match presence.finishItem shape.decode shape.zero (.wrongLength index expected) with
      | .ok value => pure value
      | .error complaint => complainOfList complaint
    return (value, ← rest.readListed expected room (index + 1))

end

namespace Record

def read (α : Type) [Record α] : Reader α := ofVal <$> (shape α).read maxDepth

/-- The structure that a text spells. -/
def ofText (α : Type) [Record α] (text : String) : Except Json.Fault α := (read α).readText text

end Record

end PgOperator
