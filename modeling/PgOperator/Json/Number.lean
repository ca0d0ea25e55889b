import PgOperator.Decimal
import PgOperator.Json.Reader

/-!
Numbers in a JSON text. A number without fraction and exponent that fits 64 bits, signed or
unsigned, is an integer; every other number, `-0` included, is a double. Digits count as long as
they fit 64 bits; those that follow in the whole part only raise the exponent.

`Reader.number` reads a number, `Reader.passNumber` passes over it without regard to its size.
-/

namespace PgOperator.Json

inductive Number where
  | int (value : Int)
  | real (value : Decimal)

/-- The number as something that was found. -/
def Number.found : Number → Found
  | .int n => .int n
  | .real d => .real d

namespace Reader

def digitValue (c : Char) : Nat := c.toNat - '0'.toNat

/-- Takes the digits that come next. -/
def passDigits : Reader Unit := eatWhile Char.isDigit

/-- The double that digits and an exponent make. -/
def double (negative : Bool) (digits : Nat) (exponent : Int) : Reader Number := do
  match Double.ofDigits? digits exponent with
  | some x => pure (.real (x.decimal negative))
  | none => failHere .outOfRange

/-- Takes the digits that come next, as long as they fit 64 bits together with the given ones.
Gives them all, and how many were taken. -/
def moreDigits (digits : Nat) : Reader (Nat × Nat) :=
  loop (fun (digits, taken) => do
    match ← peek with
    | some c =>
      if c.isDigit ∧ 10 * digits + digitValue c < UInt64.size then
        eat
        pure (true, 10 * digits + digitValue c, taken + 1)
      else pure (false, digits, taken)
    | none => pure (false, digits, taken)) (digits, 0)

def exponentSign : Reader Bool := do
  match ← peek with
  | some '+' =>
    eat
    pure false
  | some '-' =>
    eat
    pure true
  | _ => pure false

/-- Reads the digits of an exponent, as long as they fit 32 bits. An exponent beyond them is
nothing next to zero, and else makes zero or a number that is too great. -/
def exponentDigits (negative : Bool) (digits : Nat) (scale : Int) (opposite : Bool) :
    Reader Number := do
  let (size, fits) ← loop (fun (size, _) => do
    match ← peek with
    | some c =>
      if c.isDigit then
        eat
        let size := 10 * size + digitValue c
        pure (size ≤ Int32.maxValue.toInt, size, size ≤ Int32.maxValue.toInt)
      else pure (false, size, true)
    | none => pure (false, size, true)) (0, true)
  if fits then double negative digits (if opposite then scale - size else scale + size)
  else if digits ≠ 0 ∧ !opposite then failHere .outOfRange
  else
    passDigits
    pure (.real ⟨negative, 0, 0⟩)

/-- Reads an exponent, whose letter comes next, if there is one. -/
def exponent (negative : Bool) (digits : Nat) (scale : Int) : Reader Number := do
  match ← peek with
  | some 'e' | some 'E' =>
    eat
    let opposite ← exponentSign
    match ← peek with
    | none => failHere .endInValue
    | some c =>
      if c.isDigit then exponentDigits negative digits scale opposite else failAhead .badNumber
  | _ => double negative digits scale

/-- Reads the fraction after a point, and an exponent. -/
def fraction (negative : Bool) (digits : Nat) (scale : Int) : Reader Number := do
  eat
  let (digits, taken) ← moreDigits digits
  match ← peek with
  | some c =>
    if c.isDigit then
      passDigits
      exponent negative digits (scale - taken)
    else if taken = 0 then failAhead .badNumber
    else exponent negative digits (scale - taken)
  | none => if taken = 0 then failAhead .endInValue else exponent negative digits (scale - taken)

/-- Reads what follows the whole part of a number. -/
def numberTail (negative : Bool) (digits : Nat) : Reader Number := do
  match ← peek with
  | some '.' => fraction negative digits 0
  | some 'e' | some 'E' => exponent negative digits 0
  | _ =>
    if !negative then pure (.int digits)
    else if 0 < digits ∧ -(digits : Int) ≥ Int64.minValue.toInt then pure (.int (-digits))
    else double true digits 0

/-- Reads what follows a whole part that does not fit 64 bits. -/
def longTail (negative : Bool) (digits : Nat) : Reader Number := do
  let scale ← loop (fun (scale : Nat) => do
    match ← peek with
    | some c =>
      if c.isDigit then
        eat
        pure (true, scale + 1)
      else pure (false, scale)
    | none => pure (false, scale)) 0
  match ← peek with
  | some '.' => fraction negative digits scale
  | _ => exponent negative digits scale

/-- Reads a number whose sign has been taken. -/
def number (negative : Bool) : Reader Number := do
  match ← peek with
  | none => failHere .endInValue
  | some '0' =>
    eat
    match ← peek with
    | some c => if c.isDigit then failAhead .badNumber else numberTail negative 0
    | none => numberTail negative 0
  | some c =>
    if c.isDigit then
      let (digits, _) ← moreDigits 0
      match ← peek with
      | some c => if c.isDigit then longTail negative digits else numberTail negative digits
      | none => numberTail negative digits
    else failAhead .badNumber

/-- Passes over an exponent, if there is one. -/
def passExponent : Reader Unit := do
  match ← peek with
  | some 'e' | some 'E' =>
    eat
    let _ ← exponentSign
    if (← peek).any Char.isDigit then passDigits else failAhead .badNumber
  | _ => pure ()

/-- Passes over a number whose sign has been taken. -/
def passNumber : Reader Unit := do
  match ← peek with
  | some '0' =>
    eat
    if (← peek).any Char.isDigit then failAhead .badNumber
  | c => if c.any Char.isDigit then passDigits else failAhead .badNumber
  match ← peek with
  | some '.' =>
    eat
    if (← peek).any Char.isDigit then passDigits else failAhead .badNumber
    passExponent
  | _ => passExponent

end Reader

end PgOperator.Json
