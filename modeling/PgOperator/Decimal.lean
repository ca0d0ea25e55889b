
/-!
Decimal numbers as JSON texts write them, and the binary ones that they are read into.

A decimal number is a sign, digits and a power of ten; the sign of zero is kept. A binary number has
53 bits and no sign, and keeps any exponent at its upper end; `Double.isFinite` says whether 11 bits
hold it. `Double.round` is the number nearest to a quotient, a tie going to the even mantissa, and
`Double.shortest` writes a number with the fewest decimal digits that round to it again, and of
those with the nearest ones. All arithmetic is exact, on naturals.
-/

namespace PgOperator

/-- The number `digits * 10 ^ exponent`, or its opposite. -/
structure Decimal where
  negative : Bool
  digits : Nat
  exponent : Int
  deriving DecidableEq

namespace Decimal

/-- The value of decimal digits. -/
def natOfDigits (digits : List Char) : Nat :=
  digits.foldl (fun n c => 10 * n + (c.toNat - '0'.toNat)) 0

/-- Moves up to `n` zeros at the end of the digits into the exponent. -/
def stripZeros : (n : Nat) → (digits : Nat) → (exponent : Int) → Nat × Int
  | 0, digits, exponent => (digits, exponent)
  | n + 1, digits, exponent =>
    if digits % 10 = 0 then stripZeros n (digits / 10) (exponent + 1) else (digits, exponent)

/-- The given number with as few digits as it needs. -/
def ofDigits (negative : Bool) (digits : Nat) (exponent : Int) : Decimal :=
  let (digits, exponent) := stripZeros (toString digits).length digits exponent
  if digits = 0 then ⟨negative, 0, 0⟩ else ⟨negative, digits, exponent⟩

def zeros (n : Nat) : String := "".pushn '0' n

/-- The text without the sign. A number between a hundred-thousandth and ten to the sixteenth is
written in full, with one digit at least on either side of the point; any other one has a point
after its first digit, if more follow, and an exponent with its sign, if that is negative or the
number is great. -/
def magnitude (d : Decimal) : String :=
  let digits := toString d.digits
  let length : Int := digits.length
  let scale := length - 1 + d.exponent
  if d.digits = 0 then "0.0"
  else if scale < -5 ∨ 15 < scale then
    String.ofList (digits.toList.take 1) ++
      (if length = 1 then "" else "." ++ String.ofList (digits.toList.drop 1)) ++
      "e" ++ (if scale < 0 then "-" else "+") ++ toString scale.natAbs
  else if 0 ≤ d.exponent then digits ++ zeros d.exponent.toNat ++ ".0"
  else if scale < 0 then "0." ++ zeros (-scale - 1).toNat ++ digits
  else
    String.ofList (digits.toList.take (scale.toNat + 1)) ++ "." ++
      String.ofList (digits.toList.drop (scale.toNat + 1))

def text (d : Decimal) : String := (if d.negative then "-" else "") ++ d.magnitude

end Decimal

/-! ### Binary numbers -/

/-- The number `mantissa * 2 ^ exponent`. -/
structure Double where
  mantissa : Nat
  exponent : Int

namespace Double

def minExponent : Int := -1074

def zero : Double := ⟨0, minExponent⟩

/-- Whether the exponent fits a double. -/
def isFinite (x : Double) : Bool := x.exponent ≤ 971

/-- A quotient multiplied by a power of two. -/
def scale (num den : Nat) (power : Int) : Nat × Nat :=
  if 0 ≤ power then (num <<< power.toNat, den) else (num, den <<< (-power).toNat)

/-- The natural number nearest to a quotient, of two the even one. -/
def nearest (num den : Nat) : Nat :=
  let below := num / den
  let rest := num % den
  if 2 * rest < den then below else if den < 2 * rest then below + 1 else below + below % 2

/-- The exponent that gives a quotient a mantissa of 53 bits, or of fewer if it is small. -/
def exponentOf (num den : Nat) : Int :=
  let guess : Int := num.log2 - den.log2 - 53
  let (scaledNum, scaledDen) := scale num den (-guess)
  max minExponent (if scaledNum < scaledDen <<< 53 then guess else guess + 1)

/-- The number nearest to a quotient. -/
def round (num den : Nat) : Double :=
  if num = 0 then zero
  else
    let exponent := exponentOf num den
    let (scaledNum, scaledDen) := scale num den (-exponent)
    let mantissa := nearest scaledNum scaledDen
    if mantissa = 1 <<< 53 then ⟨1 <<< 52, exponent + 1⟩ else ⟨mantissa, exponent⟩

/-- The number as a quotient. -/
def quotient (x : Double) : Nat × Nat := scale x.mantissa 1 x.exponent

def mul (x y : Double) : Double :=
  round (x.quotient.1 * y.quotient.1) (x.quotient.2 * y.quotient.2)

def div (x y : Double) : Double :=
  round (x.quotient.1 * y.quotient.2) (x.quotient.2 * y.quotient.1)

/-- The number nearest to a power of ten. -/
def powerOfTen (n : Nat) : Double := round (Nat.pow 10 n) 1

/-- Divides by a power of ten, in steps of `10 ^ 308` at most; after `steps` of them nothing is
left. -/
def shrink (x : Double) (n : Nat) : (steps : Nat) → Double
  | 0 => zero
  | steps + 1 =>
    if n ≤ 308 then x.div (powerOfTen n)
    else shrink (x.div (powerOfTen 308)) (n - 308) steps

/-- The number that digits with a power of ten are read as, if it is finite: digits and power are
rounded one by one, and so is what comes of them. -/
def ofDigits? (digits : Nat) (exponent : Int) : Option Double :=
  let x := round digits 1
  if x.mantissa = 0 then some zero
  else if exponent < 0 then some (x.shrink (-exponent).toNat 4)
  else if 308 < exponent then none
  else
    let product := x.mul (powerOfTen exponent.toNat)
    if product.isFinite then some product else none

/-- The unit of the last binary place in units of the last decimal place that any number has. -/
def unit (x : Double) : Nat := Nat.pow 5 1076 <<< (x.exponent - minExponent).toNat

/-- Whether a number of decimal units rounds to the double: it lies at most half a step off, and
less than that if the mantissa is odd. Below a power of two a step is half as wide. -/
def isNear (x : Double) (units : Nat) : Bool :=
  let step := if x.mantissa = 1 <<< 52 ∧ minExponent < x.exponent then 1 else 2
  let low := (4 * x.mantissa - step) * x.unit
  let high := (4 * x.mantissa + 2) * x.unit
  if x.mantissa % 2 = 0 then low ≤ units ∧ units ≤ high else low < units ∧ units < high

/-- The multiple of a decimal grid that is nearest to the double and rounds to it, if there is
one, counted in grid steps. -/
def onGrid? (x : Double) (grid : Nat) : Option Nat :=
  let value := 4 * x.mantissa * x.unit
  let below := value / grid
  let above := below + 1
  match x.isNear (below * grid), x.isNear (above * grid) with
  | true, true => some (nearest value grid)
  | true, false => some below
  | false, true => some above
  | false, false => none

/-- The fewest digits that round to the double, with the power of ten. -/
def shortest (x : Double) : Nat × Int :=
  let value := 4 * x.mantissa * x.unit
  let length := (toString value).length
  let written := (List.range' 1 17).findSome? fun n =>
    (x.onGrid? (Nat.pow 10 (length - n))).map fun digits => (digits, (length - n : Int) - 1076)
  written.getD (value, -1076)

def decimal (negative : Bool) (x : Double) : Decimal :=
  if x.mantissa = 0 then ⟨negative, 0, 0⟩
  else Decimal.ofDigits negative x.shortest.1 x.shortest.2

end Double

end PgOperator
