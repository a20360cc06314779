import AutoAnnotate.Binary64.Rounding
/-!
# Reading numbers in JSON texts

A number without fraction and exponent that fits 64 signed bits is an integer; every other number is
a `Binary64`. Its digits are gathered in a natural number below 2 to the power 64: a digit before
the point that does not fit any more counts as a factor of ten, a digit after the point that does
not fit ends the gathering. What is gathered is rounded once, and then multiplied or divided by a
power of ten, itself rounded. A magnitude above the largest finite number is refused.
-/

namespace AutoAnnotate.Json

/-- A number in a JSON text. -/
inductive Number where
  | int (n : Int64)
  | float (x : Binary64)
  deriving DecidableEq, Repr

/-- The parts of a number as they are written. -/
structure Numeral where
  negative : Bool
  whole : List Char
  fraction : Option (List Char)
  exponent : Option (Bool × List Char)

def digitValue (c : Char) : Nat := c.toNat - '0'.toNat

/-- The natural number that digits spell. -/
def digitsValue (digits : List Char) : Nat :=
  digits.foldl (fun n c => 10 * n + digitValue c) 0

/-- Appends digits to a number as long as the result fits 64 bits. Returns the number and the digits
left over. -/
def gather (n : Nat) : List Char → Nat × List Char
  | [] => (n, [])
  | c :: rest =>
    let next := 10 * n + digitValue c
    if next < Nat.pow 2 64 then gather next rest else (n, c :: rest)

/-- A power of ten, up to the largest finite one. -/
def tenToThe (n : Nat) : Binary64 := .ofDecimal false 1 n

/-- A number times a power of ten; `none` if the result is too large. -/
def timesTenToThe (x : Binary64) (e : Int) : Option Binary64 :=
  if x.isZero then some x
  else if e > 308 then none
  else if e ≥ 0 then
    let y := x.mul (tenToThe e.toNat)
    if y.isFinite then some y else none
  else if e ≥ -308 then some (x.div (tenToThe (-e).toNat))
  else if e ≥ -616 then some ((x.div (tenToThe 308)).div (tenToThe (-e - 308).toNat))
  else some (.zero false)

/-- The number with its sign bit set. -/
def negated (x : Binary64) : Binary64 := .ofMagnitude true x.bits.toNat

namespace Numeral

/-- The exponent as written; zero if there is none. -/
def writtenExponent (n : Numeral) : Int :=
  match n.exponent with
  | none => 0
  | some (negative, digits) =>
    if negative then -(digitsValue digits : Int) else digitsValue digits

/-- A numeral as a floating-point number; `none` if it is too large. -/
def toFloat? (n : Numeral) : Option Binary64 :=
  let (whole, dropped) := gather 0 n.whole
  let fraction := n.fraction.getD []
  let (significand, ignored) := gather whole fraction
  let places : Int := fraction.length - ignored.length
  let magnitude :=
    timesTenToThe (.ofNat significand) (dropped.length - places + n.writtenExponent)
  magnitude.map fun x => if n.negative then negated x else x

/-- A numeral as a number; `none` if it is too large. A minus sign before zero asks for the negative
zero, which only the floating-point numbers have. -/
def toNumber? (n : Numeral) : Option Number :=
  let whole := digitsValue n.whole
  let isInteger := n.fraction.isNone && n.exponent.isNone
  if isInteger && !n.negative && whole < Nat.pow 2 63 then some (.int (.ofNat whole))
  else if isInteger && n.negative && 0 < whole && whole ≤ Nat.pow 2 63 then
    some (.int (.ofInt (-(whole : Int))))
  else n.toFloat?.map .float

end Numeral

end AutoAnnotate.Json
