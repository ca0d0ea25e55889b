import PgOperator.Decimal
import PgOperator.Instant
import PgOperator.Text

/-!
What can be wrong with a text that should be a JSON document of some form: a `Cause` and the place
where reading stopped. A `Complaint` is a cause that lies in what the text says, not in how it is
written.
-/

namespace PgOperator.Json

/-- A place in a text: the line, from one, and the bytes in front of it on its line. -/
structure Place where
  line : Nat
  column : Nat
  deriving DecidableEq

/-- What stands where something else was expected. -/
inductive Found where
  | null
  | bool (value : Bool)
  | int (value : Int)
  | real (value : Decimal)
  | str (value : String)
  | list
  | object
  deriving DecidableEq

def Found.text : Found → String
  | .null => "null"
  | .bool true => "boolean `true`"
  | .bool false => "boolean `false`"
  | .int n => "integer `" ++ toString n ++ "`"
  | .real d => "floating point `" ++ d.text ++ "`"
  | .str s => "string " ++ Text.quoted s
  | .list => "sequence"
  | .object => "map"

/-- What a document says that it may not say. -/
inductive Complaint where
  | wrongType (found : Found) (expected : String)
  | wrongValue (found : Found) (expected : String)
  | wrongLength (length : Nat) (expected : String)
  | missing (name : String)
  | repeated (name : String)
  | unknownName (name : String) (known : List String)
  | instant (fault : Instant.Fault)
  deriving DecidableEq

/-- A name between back quotes. -/
def tick (name : String) : String := "`" ++ name ++ "`"

/-- The names that may be chosen from. -/
def choices : List String → String
  | [] => "there are no variants"
  | [a] => "expected " ++ tick a
  | [a, b] => "expected " ++ tick a ++ " or " ++ tick b
  | names => "expected one of " ++ Text.join ", " (names.map tick)

def Complaint.text : Complaint → String
  | .wrongType found expected => "invalid type: " ++ found.text ++ ", expected " ++ expected
  | .wrongValue found expected => "invalid value: " ++ found.text ++ ", expected " ++ expected
  | .wrongLength length expected =>
    "invalid length " ++ toString length ++ ", expected " ++ expected
  | .missing name => "missing field " ++ tick name
  | .repeated name => "duplicate field " ++ tick name
  | .unknownName name known => "unknown variant " ++ tick name ++ ", " ++ choices known
  | .instant fault => fault.text

/-- Why a text could not be read. -/
inductive Cause where
  | endInList
  | endInObject
  | endInString
  | endInValue
  | noColon
  | noListMark
  | noObjectMark
  | noWord
  | noValue
  | badEscape
  | badNumber
  | outOfRange
  | controlCharacter
  | keyNoString
  | loneSurrogate
  | trailingComma
  | trailingText
  | endInEscape
  | tooDeep
  | complaint (complaint : Complaint)
  deriving DecidableEq

def Cause.text : Cause → String
  | .endInList => "EOF while parsing a list"
  | .endInObject => "EOF while parsing an object"
  | .endInString => "EOF while parsing a string"
  | .endInValue => "EOF while parsing a value"
  | .noColon => "expected `:`"
  | .noListMark => "expected `,` or `]`"
  | .noObjectMark => "expected `,` or `\x7d`"
  | .noWord => "expected ident"
  | .noValue => "expected value"
  | .badEscape => "invalid escape"
  | .badNumber => "invalid number"
  | .outOfRange => "number out of range"
  | .controlCharacter => "control character (\\u0000-\\u001F) found while parsing a string"
  | .keyNoString => "key must be a string"
  | .loneSurrogate => "lone leading surrogate in hex escape"
  | .trailingComma => "trailing comma"
  | .trailingText => "trailing characters"
  | .endInEscape => "unexpected end of hex escape"
  | .tooDeep => "recursion limit exceeded"
  | .complaint c => c.text

structure Fault where
  cause : Cause
  place : Place
  deriving DecidableEq

def Fault.text (fault : Fault) : String :=
  fault.cause.text ++ " at line " ++ toString fault.place.line ++ " column " ++
    toString fault.place.column

end PgOperator.Json
