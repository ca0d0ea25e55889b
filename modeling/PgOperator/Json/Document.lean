import PgOperator.Json.Basic
import PgOperator.Json.Number
import PgOperator.Json.Quoted

/-!
Containers in a JSON text, and whole documents. `Reader.list` and `Reader.object` take the brackets
of a container around what reads its inside, and bound how deep containers nest; `nextItem` and
`nextKey` walk along an inside. `Reader.document` reads a document of any form, `Reader.pass`
passes over one, whatever its depth. Of two members with one key the later one counts.

A complaint about a container is placed behind its closing bracket, if that comes next.
-/

namespace PgOperator.Json

/-- How many containers may be open at once. -/
def maxDepth : Nat := 127

namespace Reader

variable {α : Type}

/-- Complains about what was just read. -/
def complain (complaint : Complaint) : Reader α := failHere (.complaint complaint)

/-- Goes into a container, whose bracket comes next. -/
def enter (room : Nat) (inside : Nat → Reader α) : Reader α := do
  match room with
  | 0 => failAhead .tooDeep
  | room + 1 =>
    eat
    inside room

def closeList : Reader Unit := do
  match ← peekToken with
  | some ']' => eat
  | some ',' =>
    eat
    if (← peekToken) = some ']' then failAhead .trailingComma else failAhead .trailingText
  | some _ => failAhead .trailingText
  | none => failAhead .endInList

def closeObject : Reader Unit := do
  match ← peekToken with
  | some '\x7d' => eat
  | some ',' => failAhead .trailingComma
  | some _ => failAhead .trailingText
  | none => failAhead .endInObject

/-- Complains about the list that the cursor is in. -/
def complainOfList (complaint : Complaint) : Reader α := do
  match ← peekToken with
  | some ']' => eat
  | some ',' =>
    eat
    let _ ← peekToken
  | _ => pure ()
  complain complaint

/-- Complains about the object that the cursor is in. -/
def complainOfObject (complaint : Complaint) : Reader α := do
  if (← peekToken) = some '\x7d' then eat
  complain complaint

/-- Whether another item comes next in a list; a comma before it is taken. -/
def nextItem (first : Bool) : Reader Bool := do
  match ← peekToken with
  | none => failAhead .endInList
  | some ']' => pure false
  | some c =>
    if first then pure true
    else if c = ',' then
      eat
      match ← peekToken with
      | none => failAhead .endInValue
      | some ']' => failAhead .trailingComma
      | some _ => pure true
    else failAhead .noListMark

/-- Reads the items of a list, whose opening bracket has been taken. -/
def items (item : Reader α) : Reader (List α) := do
  let (_, done) ← loop (fun (first, done) => do
    if ← nextItem first then pure (true, false, (← item) :: done) else pure (false, first, done))
    (true, [])
  pure done.reverse

/-- The next key in an object, if there is one; a comma before it is taken. -/
def nextKey (first : Bool) : Reader (Option String) := do
  match ← peekToken with
  | none => failAhead .endInObject
  | some '\x7d' => pure none
  | some c =>
    if !first then
      if c ≠ ',' then failAhead .noObjectMark
      eat
    match ← peekToken with
    | some '"' =>
      eat
      some <$> quoted
    | some '\x7d' => failAhead .trailingComma
    | some _ => failAhead .keyNoString
    | none => failAhead .endInValue

def colon : Reader Unit := do
  match ← peekToken with
  | some ':' => eat
  | some _ => failAhead .noColon
  | none => failAhead .endInObject

/-- Walks along the members of an object, whose opening bracket has been taken. What `member` does
with a key and a state includes the colon. -/
def walk (member : String → α → Reader α) (state : α) : Reader α := do
  let (_, state) ← loop (fun (first, state) => do
    match ← nextKey first with
    | some key => pure (true, false, ← member key state)
    | none => pure (false, first, state)) (true, state)
  pure state

/-- Reads the members of an object, whose opening bracket has been taken. -/
def members (value : Reader α) : Reader (List (String × α)) := do
  let done ← walk (fun key done => do
    colon
    pure ((key, ← value) :: done)) []
  pure done.reverse

/-- A container that has been entered. -/
inductive Frame where
  | list
  | object

/-- Takes the key in front of the next value, if the container has keys. -/
def passKey : Frame → Reader Unit
  | .list => pure ()
  | .object => do
    match ← peekToken with
    | some '"' => eat
    | some _ => failAhead .keyNoString
    | none => failAhead .endInObject
    passQuoted
    colon

mutual

/-- Passes over a value in the given containers, and over the rest of these, in a number of steps
at most. -/
def passValue : (steps : Nat) → List Frame → Reader Unit
  | 0, _ => pure ()
  | steps + 1, frames => do
    match ← peekToken with
    | none => failAhead .endInValue
    | some '[' =>
      eat
      passRest steps (.list :: frames) false
    | some '\x7b' =>
      eat
      passRest steps (.object :: frames) false
    | some c =>
      if c = 'n' then
        eat
        word ['u', 'l', 'l']
      else if c = 't' then
        eat
        word ['r', 'u', 'e']
      else if c = 'f' then
        eat
        word ['a', 'l', 's', 'e']
      else if c = '-' then
        eat
        passNumber
      else if c.isDigit then passNumber
      else if c = '"' then
        eat
        passQuoted
      else failAhead .noValue
      passRest steps frames true

/-- Passes over the rest of containers, after a value of the innermost one or behind its opening
bracket. -/
def passRest : (steps : Nat) → List Frame → (afterValue : Bool) → Reader Unit
  | 0, _, _ => pure ()
  | _ + 1, [], _ => pure ()
  | steps + 1, frame :: frames, afterValue => do
    match ← peekToken, frame with
    | some ']', .list | some '\x7d', .object =>
      eat
      passRest steps frames true
    | none, .list => failAhead .endInList
    | none, .object => failAhead .endInObject
    | some c, frame =>
      if afterValue then
        if c = ',' then eat
        else
          match frame with
          | .list => failAhead .noListMark
          | .object => failAhead .noObjectMark
      passKey frame
      passValue steps (frame :: frames)

end

/-- Passes over a value. -/
def pass : Reader Unit := do passValue (2 * (← get).size + 2) []

/-- Reads a scalar value, which begins with the given character. -/
def scalar (c : Char) : Reader Found := do
  if c = 'n' then
    eat
    word ['u', 'l', 'l']
    pure .null
  else if c = 't' then
    eat
    word ['r', 'u', 'e']
    pure (.bool true)
  else if c = 'f' then
    eat
    word ['a', 'l', 's', 'e']
    pure (.bool false)
  else if c = '-' then
    eat
    return (← number true).found
  else if c.isDigit then return (← number false).found
  else if c = '"' then
    eat
    return .str (← quoted)
  else failAhead .noValue

/-- Complains about the value that comes next, of which only a scalar is read. -/
def mistype (expected : String) : Reader α := do
  match ← peekToken with
  | none => failAhead .noValue
  | some '[' => complain (.wrongType .list expected)
  | some '\x7b' => complain (.wrongType .object expected)
  | some c => complain (.wrongType (← scalar c) expected)

/-- Takes a `null`, if one comes next. -/
def passNull : Reader Bool := do
  if (← peekToken) = some 'n' then
    eat
    word ['u', 'l', 'l']
    pure true
  else pure false

def list (room : Nat) (item : Nat → Reader α) : Reader (List α) := do
  match ← peekToken with
  | none => failAhead .endInValue
  | some '[' => enter room fun room => items (item room) <* closeList
  | some _ => mistype "a sequence"

/-- Reads an object whose values are of one form. -/
def dict (room : Nat) (value : Nat → Reader α) : Reader (List (String × α)) := do
  match ← peekToken with
  | none => failAhead .endInValue
  | some '\x7b' => enter room fun room => members (value room) <* closeObject
  | some _ => mistype "a map"

/-- The document of a scalar. -/
def documentOf : Found → Json
  | .null | .list | .object => .null
  | .bool b => .bool b
  | .int n => .int n
  | .real d => .real d
  | .str s => .str s

/-- Reads a document in which containers nest no deeper than `room`. -/
def document : (room : Nat) → Reader Json
  | 0 => do
    match ← peekToken with
    | none => failAhead .endInValue
    | some c =>
      if c = '[' ∨ c = '\x7b' then failAhead .tooDeep else return documentOf (← scalar c)
  | room + 1 => do
    match ← peekToken with
    | none => failAhead .endInValue
    | some '[' =>
      eat
      let items ← items (document room)
      closeList
      pure (.arr items)
    | some '\x7b' =>
      eat
      let members ← members (document room)
      closeObject
      pure (Json.object members)
    | some c => return documentOf (← scalar c)

end Reader

/-- The document that a text spells. -/
def parse (text : String) : Except Fault Json := (Reader.document maxDepth).readText text

/-- The document that a text spells, if it spells one. -/
def parse? (text : String) : Option Json := (parse text).toOption

end PgOperator.Json
