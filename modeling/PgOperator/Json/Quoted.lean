import PgOperator.Json.Reader

/-!
Strings in a JSON text. `Reader.quoted` reads the rest of a string whose opening quote has been
taken, `Reader.passQuoted` passes over it. A character beyond the basic plane is escaped as two code
units; who passes over a string does not look whether units fit together.
-/

namespace PgOperator.Json

/-- The character that a single letter after a backslash stands for. -/
def escaped? : Char → Option Char
  | '"' => some '"'
  | '\\' => some '\\'
  | '/' => some '/'
  | 'b' => some '\x08'
  | 'f' => some '\x0c'
  | 'n' => some '\n'
  | 'r' => some '\r'
  | 't' => some '\t'
  | _ => none

namespace Reader

/-- The code unit that the next four bytes spell. -/
def codeUnit : Reader Nat := do
  let cursor ← get
  let behind := cursor.place.afterBytes 4 cursor.rest
  match cursor.rest with
  | a :: b :: c :: d :: rest =>
    match Text.hexDigit? a, Text.hexDigit? b, Text.hexDigit? c, Text.hexDigit? d with
    | some a, some b, some c, some d =>
      modify fun cursor => { cursor with rest, place := behind }
      pure (((a * 16 + b) * 16 + c) * 16 + d)
    | _, _, _, _ => throw ⟨.badEscape, behind⟩
  | few =>
    throw ⟨if (String.ofList few).utf8ByteSize < 4 then .endInString else .badEscape, behind⟩

/-- Takes the given character; an end of the string is an end within an escape. -/
def escapeMark (expected : Char) : Reader Unit := do
  match ← peek with
  | none => failHere .endInString
  | some c => if c = expected then eat else failAhead .endInEscape

/-- The character that one or two code units spell; the first `\u` has been taken. -/
def unicodeEscape : Reader Char := do
  let high ← codeUnit
  if 0xDC00 ≤ high ∧ high < 0xE000 then failHere .loneSurrogate
  else if 0xD800 ≤ high ∧ high < 0xDC00 then
    escapeMark '\\'
    escapeMark 'u'
    let low ← codeUnit
    if 0xDC00 ≤ low ∧ low < 0xE000 then
      pure (Char.ofNat (0x10000 + (high - 0xD800) * 0x400 + (low - 0xDC00)))
    else failHere .loneSurrogate
  else pure (Char.ofNat high)

/-- What follows a backslash: a letter of its own meaning, or `u`, after which `unicode` goes on. -/
def escape (unicode : Reader Char) : Reader Char := do
  match ← peek with
  | none => failHere .endInString
  | some 'u' =>
    eat
    unicode
  | some c =>
    match escaped? c with
    | some e =>
      eat
      pure e
    | none => failAhead .badEscape

/-- Reads the rest of a string. -/
def quoted : Reader String :=
  loop (fun done => do
    match ← peek with
    | none => failHere .endInString
    | some '"' =>
      eat
      pure (false, done)
    | some '\\' =>
      eat
      pure (true, done.push (← escape unicodeEscape))
    | some c =>
      if c.toNat < 0x20 then failAhead .controlCharacter
      else
        eat
        pure (true, done.push c)) ""

/-- Passes over the rest of a string. -/
def passQuoted : Reader Unit :=
  loop (fun () => do
    match ← peek with
    | none => failHere .endInString
    | some '"' =>
      eat
      pure (false, ())
    | some '\\' =>
      eat
      let _ ← escape do
        let _ ← codeUnit
        pure '?'
      pure (true, ())
    | some c =>
      if c.toNat < 0x20 then failHere .controlCharacter
      else
        eat
        pure (true, ())) ()

end Reader

end PgOperator.Json
