import PgOperator.Json.Fault

/-!
Reading a JSON text from left to right. A `Reader` takes characters off the front of what is left
of a text, or stops with a fault. Faults are placed where the cursor stands (`failHere`), or behind
the next byte where that byte is what is wrong (`failAhead`).

`Reader.loop` repeats a step that takes at least one character; the text is long enough a bound.
-/

namespace PgOperator.Json

namespace Place

/-- The place behind a character. -/
def after (place : Place) (c : Char) : Place :=
  if c = '\n' then ⟨place.line + 1, 0⟩ else ⟨place.line, place.column + c.utf8Size⟩

/-- The place behind a number of bytes of a text. -/
def afterBytes (place : Place) : (bytes : Nat) → List Char → Place
  | 0, _ => place
  | _, [] => place
  | bytes + 1, c :: rest =>
    if c.utf8Size ≤ bytes + 1 then (place.after c).afterBytes (bytes + 1 - c.utf8Size) rest
    else ⟨place.line, place.column + (bytes + 1)⟩

end Place

/-- How far a text has been read. -/
structure Cursor where
  rest : List Char
  place : Place
  /-- The characters of the whole text. -/
  size : Nat

/-- A text that has not been read yet. -/
def Cursor.ofText (text : String) : Cursor := ⟨text.toList, ⟨1, 0⟩, text.length⟩

/-- The place behind the next byte. -/
def Cursor.ahead (cursor : Cursor) : Place := cursor.place.afterBytes 1 cursor.rest

/-- What reads a part of a text. -/
abbrev Reader (α : Type) := StateT Cursor (Except Fault) α

namespace Reader

variable {α σ : Type}

/-- Stops where the cursor stands. -/
def failHere (cause : Cause) : Reader α := do throw ⟨cause, (← get).place⟩

/-- Stops behind the next byte. -/
def failAhead (cause : Cause) : Reader α := do throw ⟨cause, (← get).ahead⟩

/-- The next character, which is not taken. -/
def peek : Reader (Option Char) := return (← get).rest.head?

/-- Takes the next character. -/
def eat : Reader Unit := modify fun cursor =>
  match cursor.rest with
  | [] => cursor
  | c :: rest => { cursor with rest, place := cursor.place.after c }

/-- Reads what comes next and goes back to where it was. -/
def lookAhead (reader : Reader α) : Reader α := do
  let here ← get
  let value ← reader
  modify fun _ => here
  pure value

/-- Repeats a step until it says that there is no more to do, a number of times at most. -/
def loopFor (step : σ → Reader (Bool × σ)) : (times : Nat) → σ → Reader σ
  | 0, state => pure state
  | times + 1, state => do
    let (more, state) ← step state
    if more then loopFor step times state else pure state

/-- Repeats a step that takes a character or more until it says that there is no more to do. -/
def loop (step : σ → Reader (Bool × σ)) (state : σ) : Reader σ := do
  loopFor step ((← get).size + 1) state

def eatWhile (p : Char → Bool) : Reader Unit :=
  loop (fun () => do
    match ← peek with
    | some c => if p c then eat; pure (true, ()) else pure (false, ())
    | none => pure (false, ())) ()

/-- Whether a character may stand between tokens. -/
def isBlank (c : Char) : Bool := c = ' ' || c = '\n' || c = '\t' || c = '\r'

/-- The next character that is no blank; the blanks before it are taken. -/
def peekToken : Reader (Option Char) := do
  eatWhile isBlank
  peek

/-- Takes the rest of a word. -/
def word : List Char → Reader Unit
  | [] => pure ()
  | expected :: rest => do
    match ← peek with
    | none => failHere .endInValue
    | some c =>
      if c = expected then
        eat
        word rest
      else failAhead .noWord

def readText (reader : Reader α) (text : String) : Except Fault α :=
  let whole : Reader α := do
    let value ← reader
    match ← peekToken with
    | none => pure value
    | some _ => failAhead .trailingText
  (StateT.run whole (Cursor.ofText text)).map (·.1)

end Reader

end PgOperator.Json
