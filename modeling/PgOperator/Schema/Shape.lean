import PgOperator.Json.Basic
import PgOperator.Dict
import PgOperator.Instant

/-!
The shapes of API documents. A `Shape` says what a document looks like, `Shape.Val` is the type of
the values that such documents carry: a record's values are nested pairs, one component for each
field, ended by `()`. Tables of shapes describe the parts of a resource that the operator only
passes on; the parts it reads and writes have structures of their own, tied to a table by
`Record`.
-/

namespace PgOperator

/-- A port or an amount that is given as a number or by name. -/
inductive IntOrText where
  | int (value : Int32)
  | text (value : String)
  deriving DecidableEq

/-- What a field's absence means.

* `optional`: the field has no value; an absent field and `null` are the same.
* `lenient`: the field has a value always; an absent field and `null` read as the least one.
* `strict`: the field has to be there.
* `nullable`: the field has to be there; `null` reads as the least value.
* `defaulted`: an absent field reads as the given document does, `null` has no special meaning.
  A `hidden` field is left out when it would be written as that document. -/
inductive Presence where
  | optional
  | lenient
  | strict
  | nullable
  | defaulted (document : Json) (hidden : Bool)

/-- How the members of a record are told from each other.

* `loose`: of two members with one name the later one counts.
* `exact`: no two members have one name. The values of the fields may also stand in a list.
* `gathered`: no two members have one name, and those other than the given ones are first read as
  whole documents. -/
inductive Form where
  | loose
  | exact
  | gathered (own : List String)
  deriving DecidableEq

/-- What a record is called in complaints, and its form. -/
structure Heading where
  title : String
  form : Form
  deriving DecidableEq

namespace Heading

abbrev loose (title : String) : Heading := ⟨title, .loose⟩

abbrev exact (title : String) : Heading := ⟨title, .exact⟩

/-- The heading of a record whose other members are read as whole documents. -/
abbrev gathered (title : String) (own : List String) : Heading := ⟨title, .gathered own⟩

end Heading

mutual

/-- What a document looks like. `choice` is one of some names, `free` any document but `null`, and
`hidden` describes the same documents as the shape in it, but does not publish how they look. -/
inductive Shape where
  | text
  | flag
  | int32
  | int64
  | instant
  | intOrText
  | free
  | choice (first : String) (others : List String)
  | list (item : Shape)
  | dict (item : Shape)
  | record (heading : Heading) (fields : Fields)
  | hidden (shape : Shape)

/-- The fields of a record. A `const` field is always written with the same text; where it is
`checked`, it may be absent but may not say anything else. -/
inductive Fields where
  | nil
  | const (name text : String) (checked : Bool) (rest : Fields)
  | field (name : String) (presence : Presence) (shape : Shape) (rest : Fields)

end

/-- The values of a field, from those of its shape. -/
@[reducible] def Presence.Val (α : Type) : Presence → Type
  | .optional => Option α
  | .lenient | .strict | .nullable | .defaulted _ _ => α

mutual

/-- The values that documents of a shape carry. -/
@[reducible] def Shape.Val : Shape → Type
  | .text => String
  | .flag => Bool
  | .int32 => Int32
  | .int64 => Int64
  | .instant => Instant
  | .intOrText => IntOrText
  | .free => Json.Present
  | .choice first others => { name : String // name ∈ first :: others }
  | .list item => List item.Val
  | .dict item => Dict item.Val
  | .record _ fields => fields.Val
  | .hidden shape => shape.Val

/-- The values of a record's fields. -/
@[reducible] def Fields.Val : Fields → Type
  | .nil => Unit
  | .const _ _ _ rest => rest.Val
  | .field _ presence shape rest => presence.Val shape.Val × rest.Val

end

/-- A record in which a later member replaces an earlier one. -/
abbrev Shape.loose (title : String) (fields : Fields) : Shape := .record (.loose title) fields

/-- A field that may be left out. -/
abbrev opt (name : String) (shape : Shape) (rest : Fields) : Fields :=
  .field name .optional shape rest

/-- A field that is always written. -/
abbrev req (name : String) (shape : Shape) (rest : Fields) : Fields :=
  .field name .lenient shape rest

/-- A field that has to be there. -/
abbrev must (name : String) (shape : Shape) (rest : Fields) : Fields :=
  .field name .strict shape rest

/-- A field that reads as the given document where it is absent. -/
abbrev dflt (name : String) (document : Json) (shape : Shape) (rest : Fields) : Fields :=
  .field name (.defaulted document false) shape rest

/-- A field that is absent where it would be written as the given document. -/
abbrev skip (name : String) (document : Json) (shape : Shape) (rest : Fields) : Fields :=
  .field name (.defaulted document true) shape rest

namespace Presence

variable {α : Type}

/-- The least value of a field. -/
def zero (least : α) : (presence : Presence) → presence.Val α
  | .optional => none
  | .lenient | .strict | .nullable | .defaulted _ _ => least

def decEq (item : DecidableEq α) : (presence : Presence) → DecidableEq (presence.Val α)
  | .optional => inferInstanceAs (DecidableEq (Option α))
  | .lenient | .strict | .nullable | .defaulted _ _ => item

end Presence

mutual

/-- The least value of a shape: empty, zero, false, or the first name. -/
def Shape.zero : (shape : Shape) → shape.Val
  | .text => ("" : String)
  | .flag => false
  | .int32 => (0 : Int32)
  | .int64 => (0 : Int64)
  | .instant => Instant.epoch
  | .intOrText => IntOrText.int 0
  | .free => ⟨.obj [], nofun, Json.ordered_obj.2 ⟨.nil, nofun⟩⟩
  | .choice first _ => ⟨first, List.mem_cons_self⟩
  | .list _ => ([] : List _)
  | .dict _ => Dict.empty
  | .record _ fields => fields.zero
  | .hidden shape => shape.zero

/-- The record whose fields all have their least value. -/
def Fields.zero : (fields : Fields) → fields.Val
  | .nil => ()
  | .const _ _ _ rest => rest.zero
  | .field _ presence shape rest => (presence.zero shape.zero, rest.zero)

end

mutual

def Shape.decEq : (shape : Shape) → DecidableEq shape.Val
  | .text => inferInstanceAs (DecidableEq String)
  | .flag => inferInstanceAs (DecidableEq Bool)
  | .int32 => inferInstanceAs (DecidableEq Int32)
  | .int64 => inferInstanceAs (DecidableEq Int64)
  | .instant => inferInstanceAs (DecidableEq Instant)
  | .intOrText => inferInstanceAs (DecidableEq IntOrText)
  | .free => inferInstanceAs (DecidableEq Json.Present)
  | .choice first others =>
    inferInstanceAs (DecidableEq { name : String // name ∈ first :: others })
  | .list item => @instDecidableEqList _ item.decEq
  | .dict item => @Dict.instDecidableEq _ item.decEq
  | .record _ fields => fields.decEq
  | .hidden shape => shape.decEq

def Fields.decEq : (fields : Fields) → DecidableEq fields.Val
  | .nil => inferInstanceAs (DecidableEq Unit)
  | .const _ _ _ rest => rest.decEq
  | .field _ presence shape rest => @instDecidableEqProd _ _ (presence.decEq shape.decEq) rest.decEq

end

instance (shape : Shape) : DecidableEq shape.Val := shape.decEq

instance (fields : Fields) : DecidableEq fields.Val := fields.decEq

end PgOperator
