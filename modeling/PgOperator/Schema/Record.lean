import PgOperator.Schema.Codec

/-!
Types that stand for the values of a shape.

`Record α` ties a structure to a table of fields by two conversions that undo each other; reading
and writing follow from the table. `Named α` does the same for a type of finitely many values that
are written as names.
-/

namespace PgOperator

/-! ### Structures -/

/-- A structure whose values are those of a table of fields. -/
class Record (α : Type) where
  heading : Heading
  fields : Fields
  toVal : α → fields.Val
  ofVal : fields.Val → α
  ofVal_toVal : ∀ a, ofVal (toVal a) = a
  toVal_ofVal : ∀ v, toVal (ofVal v) = v

namespace Record

attribute [simp] ofVal_toVal toVal_ofVal

variable {α : Type} [Record α]

abbrev shape (α : Type) [Record α] : Shape := .record (heading α) (fields α)

def decode (doc : Json) : Option α := ((shape α).decode doc).map ofVal

def encode (value : α) : Json := (shape α).encode (toVal value)

def decodeList (doc : Json) : Option (List α) :=
  match doc with
  | .arr items => decodeItems decode items
  | _ => none

def encodeList (values : List α) : Json := .arr (values.map encode)

end Record

/-! ### Names -/

/-- A type of finitely many values, each with a name of its own. -/
class Named (α : Type) where
  first : α
  others : List α
  text : α → String
  mem_values : ∀ x, x ∈ first :: others
  eq_of_text_eq : ∀ x y, text x = text y → x = y

namespace Named

variable {α : Type} [Named α]

abbrev shape (α : Type) [Named α] : Shape := .choice (text (first : α)) ((others : List α).map text)

def toVal (x : α) : (shape α).Val := ⟨text x, List.mem_map_of_mem (mem_values x)⟩

def ofVal (name : (shape α).Val) : α :=
  ((first :: others).find? fun x => text x = name.1).getD first

theorem find?_text (x : α) : ((first : α) :: others).find? (fun y => text y = text x) = some x := by
  cases h : ((first : α) :: others).find? (fun y => text y = text x) with
  | none => exact absurd (List.find?_eq_none.1 h x (mem_values x)) (by simp)
  | some y => rw [eq_of_text_eq y x (by simpa using List.find?_some h)]

@[simp] theorem ofVal_toVal (x : α) : ofVal (toVal x) = x :=
  congrArg (Option.getD · first) (find?_text x)

@[simp] theorem toVal_ofVal (name : (shape α).Val) : toVal (ofVal name) = name := by
  obtain ⟨name, h⟩ := name
  obtain ⟨x, _, rfl⟩ := List.mem_map.1 (show name ∈ ((first : α) :: others).map text from h)
  exact congrArg toVal (ofVal_toVal x)

end Named

end PgOperator
