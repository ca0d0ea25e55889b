import PgOperator.Text

/-!
The addresses that requests go to. A `Uri` is a path and a query as they are sent. `Uri.ofText`
divides a text at its first question mark and leaves out what follows a number sign; it admits all
characters but those that have to be escaped. Names in a query are escaped by `Uri.escape`, and
`Uri.pairs` undoes that.
-/

namespace PgOperator.Api

structure Uri where
  path : String
  query : String := ""
  deriving DecidableEq

namespace Uri

inductive Fault where
  | character
  | length
  deriving DecidableEq

def Fault.text : Fault → String
  | .character => "invalid uri character"
  | .length => "uri too long"

/-- The length of the longest address, in bytes. -/
def maxLength : Nat := 65534

def isOfQuery (c : Char) : Bool := 0x20 < c.toNat && c ≠ '"' && c ≠ '<' && c ≠ '>'

def isOfPath (c : Char) : Bool := 0x20 < c.toNat && c.toNat ≠ 0x60 && c ≠ '<' && c ≠ '>'

/-- The address that a text gives. -/
def ofText (text : String) : Except Fault Uri :=
  if maxLength < text.utf8ByteSize then .error .length
  else
    let sent := text.toList.takeWhile (· ≠ '#')
    let path := sent.takeWhile (· ≠ '?')
    let query := (sent.dropWhile (· ≠ '?')).drop 1
    if path.all isOfPath && query.all isOfQuery then
      .ok ⟨String.ofList path, String.ofList query⟩
    else .error .character

/-- A byte as it stands in a query. -/
def escapeByte (byte : UInt8) : List Char :=
  let c := Char.ofNat byte.toNat
  if c.isAlphanum || "*-._".contains c then [c]
  else if c = ' ' then ['+']
  else '%' :: [byte / 16, byte % 16].map fun digit => (Nat.digitChar digit.toNat).toUpper

/-- A text as it stands in a query. -/
def escape (s : String) : String := String.ofList ((Text.bytes s).flatMap escapeByte)

/-- The bytes that a part of a query stands for. -/
def unescapeBytes : List Char → List UInt8
  | [] => []
  | '%' :: a :: b :: rest =>
    match Text.hexDigit? a, Text.hexDigit? b with
    | some a, some b => UInt8.ofNat (16 * a + b) :: unescapeBytes rest
    | _, _ => String.utf8EncodeChar '%' ++ unescapeBytes (a :: b :: rest)
  | '+' :: rest => String.utf8EncodeChar ' ' ++ unescapeBytes rest
  | c :: rest => String.utf8EncodeChar c ++ unescapeBytes rest

/-- The text that a part of a query stands for. -/
def unescape (part : List Char) : String := Text.ofBytes (unescapeBytes part)

/-- The names and values in a query. -/
def pairs (uri : Uri) : List (String × String) :=
  ((uri.query.toList.splitOn '&').filter (· ≠ [])).map fun part =>
    (unescape (part.takeWhile (· ≠ '=')), unescape ((part.dropWhile (· ≠ '=')).drop 1))

/-- The text of a query with the given names and values. -/
def queryText (pairs : List (String × String)) : String :=
  "?" ++ String.join (pairs.map fun e => "&" ++ escape e.1 ++ "=" ++ escape e.2)

end Uri

end PgOperator.Api
