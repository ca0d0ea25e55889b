import PgOperator.Decimal

/-!
Points in time, as API objects carry them. An instant is a civil date and a time of day in UTC,
down to nanoseconds; second 60 is a leap second and may end any minute. It is written with whole
seconds, so instants that differ in the fraction share a text.

`Instant.ofText` reads the RFC 3339 form with any offset and some licence: blanks before numbers
and separators, short numbers, a blank or a small letter for `T`, signed years of any length. What
is wrong with a text is found from left to right, a number's range as soon as it is read; whether
the month has the day is looked at last.
-/

namespace PgOperator

/-- What is wrong with the text of an instant. -/
inductive Instant.Fault where
  | outOfRange
  | impossible
  | notEnough
  | malformed
  | tooShort
  | tooLong
  deriving DecidableEq

def Instant.Fault.text : Fault → String
  | .outOfRange => "input is out of range"
  | .impossible => "no possible date and time matching input"
  | .notEnough => "input is not enough for unique date and time"
  | .malformed => "input contains invalid characters"
  | .tooShort => "premature end of input"
  | .tooLong => "trailing input"

/-- Days of a month. -/
def Instant.daysIn (year : Int) (month : Nat) : Nat :=
  match month with
  | 2 => if year % 4 = 0 ∧ (year % 100 ≠ 0 ∨ year % 400 = 0) then 29 else 28
  | 4 | 6 | 9 | 11 => 30
  | _ => 31

/-- A point in time, in UTC. -/
structure Instant where
  year : Int
  month : Nat
  day : Nat
  hour : Nat
  minute : Nat
  second : Nat
  nanos : Nat
  valid : (-262143 ≤ year ∧ year ≤ 262142) ∧ (1 ≤ month ∧ month ≤ 12) ∧
    (1 ≤ day ∧ day ≤ Instant.daysIn year month) ∧ hour < 24 ∧ minute < 60 ∧ second ≤ 60 ∧
    nanos < 1000000000
  deriving DecidableEq

namespace Instant

def epoch : Instant := ⟨1970, 1, 1, 0, 0, 0, 0, by decide⟩

/-- The given fields as an instant, if they make one. -/
def ofFields? (year : Int) (month day hour minute second nanos : Nat) : Option Instant :=
  if h : _ then some ⟨year, month, day, hour, minute, second, nanos, h⟩ else none

def dayAfter (year : Int) (month day : Nat) : Int × Nat × Nat :=
  if day < daysIn year month then (year, month, day + 1)
  else if month < 12 then (year, month + 1, 1)
  else (year + 1, 1, 1)

def dayBefore (year : Int) (month day : Nat) : Int × Nat × Nat :=
  if 1 < day then (year, month, day - 1)
  else if 1 < month then (year, month - 1, daysIn year (month - 1))
  else (year - 1, 12, 31)

/-- The instant of a local time that is ahead of UTC by some minutes, less than a day. -/
def ofLocal (year : Int) (month day hour minute second nanos : Nat) (ahead : Int) :
    Except Fault Instant :=
  if (ofFields? year month day hour minute second nanos).isNone ∨ 1440 ≤ ahead.natAbs then
    .error .outOfRange
  else
    let minutes : Int := hour * 60 + minute - ahead
    let (year, month, day) :=
      if minutes < 0 then dayBefore year month day
      else if 1440 ≤ minutes then dayAfter year month day
      else (year, month, day)
    let minutes := (minutes % 1440).toNat
    match ofFields? year month day (minutes / 60) (minutes % 60) second nanos with
    | some instant => .ok instant
    | none => .error .impossible

def isBlank (c : Char) : Bool :=
  let n := c.toNat
  (9 ≤ n && n ≤ 13) || n == 0x20 || n == 0x85 || n == 0xA0 || n == 0x1680 ||
    (0x2000 ≤ n && n ≤ 0x200A) || n == 0x2028 || n == 0x2029 || n == 0x202F || n == 0x205F ||
    n == 0x3000

def skipBlanks (cs : List Char) : List Char := cs.dropWhile isBlank

abbrev Rest := List Char

/-- Reads a number of at most `width` digits and at least one. -/
def digits (width : Nat) (cs : Rest) : Except Fault (Nat × Rest) :=
  let digits := (cs.take width).takeWhile Char.isDigit
  if cs.isEmpty then .error .tooShort
  else if digits.isEmpty then .error .malformed
  else .ok (Decimal.natOfDigits digits, cs.drop digits.length)

/-- Reads a number of at most two digits after blanks, which has to lie in a range. -/
def field (least greatest : Nat) (cs : Rest) : Except Fault (Nat × Rest) := do
  let (n, cs) ← digits 2 (skipBlanks cs)
  if least ≤ n ∧ n ≤ greatest then return (n, cs) else throw .outOfRange

/-- Reads a year: up to four digits, or a sign and any number of digits. -/
def yearField (cs : Rest) : Except Fault (Int × Rest) := do
  let (year, cs) ← match skipBlanks cs with
    | '-' :: rest => (digits rest.length rest).map fun (n, rest) => ((-n : Int), rest)
    | '+' :: rest => (digits rest.length rest).map fun (n, rest) => ((n : Int), rest)
    | cs => (digits 4 cs).map fun (n, rest) => ((n : Int), rest)
  if Int32.minValue.toInt ≤ year ∧ year ≤ Int32.maxValue.toInt then return (year, cs)
  else throw .outOfRange

/-- Reads a separator after blanks. -/
def separator (c : Char) (cs : Rest) : Except Fault Rest :=
  match skipBlanks cs with
  | d :: rest => if d = c then .ok rest else .error .malformed
  | [] => .error .tooShort

/-- Reads a fraction of a second, if there is one; digits after the ninth do not count. -/
def fraction : Rest → Except Fault (Nat × Rest)
  | '.' :: cs => do
    let (n, rest) ← digits 9 cs
    return (n * Nat.pow 10 (9 - (cs.length - rest.length)), rest.dropWhile Char.isDigit)
  | cs => .ok (0, cs)

/-- The two digits that a text begins with. -/
def twoDigits : Rest → Except Fault (Nat × Nat × Rest)
  | c :: d :: rest =>
    if c.isDigit && d.isDigit then .ok (c.toNat - '0'.toNat, d.toNat - '0'.toNat, rest)
    else .error .malformed
  | [c] => .error (if c.utf8Size = 1 then .tooShort else .malformed)
  | [] => .error .tooShort

/-- Reads hours and minutes. -/
def hoursAndMinutes (cs : Rest) : Except Fault (Nat × Rest) := do
  let (h1, h2, cs) ← twoDigits cs
  let (m1, m2, cs) ← twoDigits (cs.dropWhile fun c => c = ':' || isBlank c)
  if m1 < 6 then return (60 * (10 * h1 + h2) + 10 * m1 + m2, cs) else throw .outOfRange

/-- Reads the offset from UTC in minutes. -/
def offset (cs : Rest) : Except Fault (Int × Rest) :=
  if (cs.take 3).map Char.toLower = ['u', 't', 'c'] then .ok (0, cs.drop 3)
  else
    match cs with
    | [] => .error .tooShort
    | 'Z' :: rest | 'z' :: rest => .ok (0, rest)
    | '+' :: rest => (hoursAndMinutes rest).map fun (n, rest) => ((n : Int), rest)
    | '-' :: rest | '\u2212' :: rest =>
      (hoursAndMinutes rest).map fun (n, rest) => ((-n : Int), rest)
    | _ => .error .malformed

/-- Reads a date, after which there has to be something. -/
def date (cs : Rest) : Except Fault ((Int × Nat × Nat) × Rest) := do
  let (year, cs) ← yearField cs
  let (month, cs) ← field 1 12 (← separator '-' cs)
  let (day, cs) ← field 1 31 (← separator '-' cs)
  if cs.isEmpty then throw .notEnough else return ((year, month, day), cs)

/-- Reads a time of day, after which there has to be something. -/
def timeOfDay (cs : Rest) : Except Fault ((Nat × Nat × Nat × Nat) × Rest) := do
  let (hour, cs) ← field 0 23 cs
  let (minute, cs) ← field 0 59 (← separator ':' cs)
  let (second, cs) ← field 0 60 (← separator ':' cs)
  let (nanos, cs) ← fraction cs
  let cs := skipBlanks cs
  if cs.isEmpty then throw .notEnough else return ((hour, minute, second, nanos), cs)

/-- The instant that a text spells. -/
def ofText (text : String) : Except Fault Instant := do
  let ((year, month, day), cs) ← date text.toList
  let cs ← match cs with
    | 'T' :: rest | 't' :: rest | ' ' :: rest => Except.ok rest
    | _ => throw .malformed
  let ((hour, minute, second, nanos), cs) ← timeOfDay cs
  let (ahead, cs) ← offset cs
  if !(skipBlanks cs).isEmpty then throw .tooLong
  ofLocal year month day hour minute second nanos ahead

/-- The instant that a text spells, if it spells one. -/
def ofText? (text : String) : Option Instant := (ofText text).toOption

/-- Decimal digits with zeros in front up to a width. -/
def padded (width n : Nat) : String :=
  let digits := toString n
  "".pushn '0' (width - digits.length) ++ digits

/-- A year: four digits, or a sign and at least four digits outside of `0` to `9999`. -/
def yearText (year : Int) : String :=
  if 0 ≤ year ∧ year ≤ 9999 then padded 4 year.toNat
  else (if year < 0 then "-" else "+") ++ padded 4 year.natAbs

/-- The written form, with whole seconds. -/
def text (t : Instant) : String :=
  yearText t.year ++ "-" ++ padded 2 t.month ++ "-" ++ padded 2 t.day ++ "T" ++
    padded 2 t.hour ++ ":" ++ padded 2 t.minute ++ ":" ++ padded 2 t.second ++ "Z"

end Instant

end PgOperator
