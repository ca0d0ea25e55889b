import PgOperator.Text.Invisible

/-!
Text operations: segments between slashes, joining, hexadecimal digits, quoting for messages, and
texts as bytes.

`Text.bytes` is the UTF-8 form of a text. `Text.ofBytes` reads any bytes: where they do not spell a
character, a replacement character stands for as many of them as could have begun one.
-/

namespace PgOperator

namespace Text

/-- The parts of a text between its slashes. -/
def segments (s : String) : List String := (s.toList.splitOn '/').map String.ofList

def join (separator : String) (parts : List String) : String := separator.intercalate parts

/-- The text without the slashes at its ends. -/
def trimSlashes (s : String) : String :=
  String.ofList (((s.toList.dropWhile (· = '/')).reverse.dropWhile (· = '/')).reverse)

def endsWith (s suffix : String) : Bool := suffix.toList.isSuffixOf s.toList

/-- Joins path segments under `/`, leaving out the empty ones and `.`. -/
def absolutePath (parts : List String) : String :=
  "/" ++ join "/" ((parts.flatMap segments).filter fun s => s ≠ "" ∧ s ≠ ".")

def hexDigit? (c : Char) : Option Nat :=
  if c.isDigit then some (c.toNat - '0'.toNat)
  else if 'a' ≤ c ∧ c ≤ 'f' then some (c.toNat - 'a'.toNat + 10)
  else if 'A' ≤ c ∧ c ≤ 'F' then some (c.toNat - 'A'.toNat + 10)
  else none

/-- A character as it stands inside quotes. -/
def quoteChar (c : Char) : String :=
  match c with
  | '"' => "\\\""
  | '\\' => "\\\\"
  | '\n' => "\\n"
  | '\r' => "\\r"
  | '\t' => "\\t"
  | '\x00' => "\\0"
  | c =>
    if isInvisible c then
      "\\u\x7b" ++ String.ofList (Nat.toDigits 16 c.toNat) ++ "\x7d"
    else String.singleton c

/-- A text between quotes, with quotes, backslashes and invisible characters escaped. -/
def quoted (s : String) : String := "\"" ++ String.join (s.toList.map quoteChar) ++ "\""

/-! ### Bytes -/

/-- The UTF-8 form of a text. -/
def bytes (s : String) : List UInt8 := s.toList.flatMap String.utf8EncodeChar

/-- What is known of a character whose bytes have not all been read: its bits so far, how many
bytes are missing, and between which bounds the next one lies. -/
structure Opened where
  bits : Nat
  missing : Nat
  least : Nat := 0x80
  greatest : Nat := 0xBF

/-- What has been read: the characters, the last one first, and an opened character. -/
structure Decoded where
  chars : List Char := []
  opened : Option Opened := none

/-- The character that stands for bytes that spell none. -/
def replacement : Char := '\ufffd'

namespace Decoded

/-- Reads the first byte of a character. -/
def first (chars : List Char) (byte : Nat) : Decoded :=
  if byte < 0x80 then { chars := Char.ofNat byte :: chars }
  else if 0xC2 ≤ byte ∧ byte < 0xE0 then
    { chars, opened := some { bits := byte - 0xC0, missing := 1 } }
  else if 0xE0 ≤ byte ∧ byte < 0xF0 then
    let least := if byte = 0xE0 then 0xA0 else 0x80
    let greatest := if byte = 0xED then 0x9F else 0xBF
    { chars, opened := some ⟨byte - 0xE0, 2, least, greatest⟩ }
  else if 0xF0 ≤ byte ∧ byte < 0xF5 then
    let least := if byte = 0xF0 then 0x90 else 0x80
    let greatest := if byte = 0xF4 then 0x8F else 0xBF
    { chars, opened := some ⟨byte - 0xF0, 3, least, greatest⟩ }
  else { chars := replacement :: chars }

/-- Reads a byte. One that an opened character cannot go on with begins another character. -/
def next (done : Decoded) (byte : UInt8) : Decoded :=
  let byte := byte.toNat
  match done.opened with
  | none => first done.chars byte
  | some opened =>
    if byte < opened.least ∨ opened.greatest < byte then first (replacement :: done.chars) byte
    else
      let bits := 0x40 * opened.bits + (byte - 0x80)
      if opened.missing ≤ 1 then { chars := Char.ofNat bits :: done.chars }
      else { done with opened := some { bits, missing := opened.missing - 1 } }

def text (done : Decoded) : String :=
  String.ofList (match done.opened with
    | none => done.chars
    | some _ => replacement :: done.chars).reverse

end Decoded

/-- The text that bytes spell. -/
def ofBytes (bytes : List UInt8) : String := (bytes.foldl Decoded.next {}).text

end Text

end PgOperator
