import AutoAnnotate.Binary64.Shortest
/-!
# Numbers as text

A finite number is written with the digits of its shortest decimal, either in positional form or
with an exponent. A `FloatFormat` says which of the two is taken and how it is spelled.
-/

namespace AutoAnnotate

/-- How a floating-point number is spelled. -/
structure FloatFormat where
  /-- The least exponent of the leading digit that is written positionally, if there is one. -/
  leastPositional : Option Int
  /-- The least exponent of the leading digit above those written positionally, if there is one. -/
  firstExponential : Option Int
  /-- Whether a whole number in positional form ends in `.0`. -/
  wholeHasPoint : Bool
  /-- Whether an exponent that is not negative has a plus sign. -/
  exponentHasPlus : Bool
  /-- Which of two shortest decimals is written that are equally near. -/
  tie : Binary64.Tie
  nan : String
  infinity : String
  negativeInfinity : String

namespace FloatFormat

/-- Whether a number with this exponent of its leading digit is written positionally. -/
def isPositional (f : FloatFormat) (leading : Int) : Bool :=
  (match f.leastPositional with | none => true | some e => decide (e ≤ leading)) &&
  (match f.firstExponential with | none => true | some e => decide (leading < e))

/-- The digits of a natural number without the zeros at its end. -/
def significantDigits (n : Nat) : List Char :=
  ((Nat.toDigits 10 n).reverse.dropWhile (· = '0')).reverse

/-- Digits with a decimal point, the first digit having the given exponent. -/
def positional (f : FloatFormat) (digits : List Char) (leading : Int) : List Char :=
  let places := digits.length
  if leading < 0 then
    ['0', '.'] ++ List.replicate (-leading - 1).toNat '0' ++ digits
  else if places ≤ leading.toNat + 1 then
    digits ++ List.replicate (leading.toNat + 1 - places) '0' ++
      (if f.wholeHasPoint then ['.', '0'] else [])
  else
    digits.take (leading.toNat + 1) ++ ['.'] ++ digits.drop (leading.toNat + 1)

/-- Digits with a point after the first one, and an exponent. -/
def exponential (f : FloatFormat) (digits : List Char) (leading : Int) : List Char :=
  digits.take 1 ++ (if digits.length > 1 then ['.'] ++ digits.drop 1 else []) ++ ['e'] ++
    (if leading < 0 then ['-'] else if f.exponentHasPlus then ['+'] else []) ++
    Nat.toDigits 10 leading.natAbs

/-- The magnitude of a finite number as text. -/
def magnitude (f : FloatFormat) (x : Binary64) : List Char :=
  let d := x.shortest f.tie
  let all := Nat.toDigits 10 d.digits
  if d.digits = 0 then f.positional ['0'] 0
  else
    let digits := significantDigits d.digits
    let leading : Int := all.length - 1 + d.exponent
    if f.isPositional leading then f.positional digits leading else f.exponential digits leading

/-- A number as text. -/
def render (f : FloatFormat) (x : Binary64) : String :=
  if x.isNaN then f.nan
  else if !x.isFinite then (if x.isNegative then f.negativeInfinity else f.infinity)
  else String.ofList ((if x.isNegative then ['-'] else []) ++ f.magnitude x)

/-- The format of values in messages: always positional, a whole number has no point, and a tie goes
up. -/
def message : FloatFormat where
  leastPositional := none
  firstExponential := none
  wholeHasPoint := false
  exponentHasPlus := false
  tie := .up
  nan := "NaN"
  infinity := "inf"
  negativeInfinity := "-inf"

/-- The format of JSON texts: positional from 0.00001 up to below 10 to the power 16, a tie goes to
the even digit, and `null` stands for what is no number. -/
def json : FloatFormat where
  leastPositional := some (-5)
  firstExponential := some 16
  wholeHasPoint := true
  exponentHasPlus := true
  tie := .toEven
  nan := "null"
  infinity := "null"
  negativeInfinity := "null"

/-- The format of YAML texts: as in JSON, but an exponent has no plus sign, and NaN and the
infinities have names. -/
def yaml : FloatFormat where
  leastPositional := some (-5)
  firstExponential := some 16
  wholeHasPoint := true
  exponentHasPlus := false
  tie := .toEven
  nan := ".nan"
  infinity := ".inf"
  negativeInfinity := "-.inf"

end FloatFormat

end AutoAnnotate
