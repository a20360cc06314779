import AutoAnnotate.Binary64.Basic
/-!
# Rounding to the nearest number

A quotient of natural numbers is rounded to the nearest `Binary64`, a tie going to the even
significand and a quotient past the largest finite number to infinity. Products, quotients and
decimal numbers are computed exactly and rounded once.
-/

namespace AutoAnnotate.Binary64

/-- Where a quotient goes that lies half way between two natural numbers. -/
inductive Tie where
  | toEven
  | up
  deriving DecidableEq, Repr

/-- The nearest natural number to a quotient. -/
def divNearest (tie : Tie) (num den : Nat) : Nat :=
  let q := num / den
  let r := num % den
  if 2 * r < den ∨ (2 * r = den ∧ tie = .toEven ∧ q % 2 = 0) then q else q + 1

/-- A quotient divided by a power of two, as numerator and denominator. -/
def scaleDown (num den : Nat) (e : Int) : Nat × Nat :=
  (num * Nat.pow 2 (-e).toNat, den * Nat.pow 2 e.toNat)

/-- The power of two at which a quotient has a significand of 53 bits, or of fewer if the quotient
is too small for that. -/
def unitExponent (num den : Nat) : Int :=
  let e : Int := num.log2 - den.log2 - 52
  let (n, d) := scaleDown num den e
  max (if n < d * Nat.pow 2 52 then e - 1 else e) (-1074)

/-- The number nearest to `num / den`, with a sign. -/
def ofRatio (negative : Bool) (num den : Nat) : Binary64 :=
  if num = 0 then zero negative
  else
    let e := unitExponent num den
    let (n, d) := scaleDown num den e
    let magnitude := (e + 1074).toNat * Nat.pow 2 52 + divNearest .toEven n d
    if magnitude ≥ 2047 * Nat.pow 2 52 then infinity negative
    else ofMagnitude negative magnitude

/-- The magnitude of a finite number as a quotient. -/
def toRatio (x : Binary64) : Nat × Nat := scaleDown x.significand 1 (-x.exponent)

/-- The nearest number to a product of finite numbers. -/
def mul (x y : Binary64) : Binary64 :=
  ofRatio (x.isNegative != y.isNegative) (x.toRatio.1 * y.toRatio.1) (x.toRatio.2 * y.toRatio.2)

/-- The nearest number to a quotient of finite numbers, the second one not zero. -/
def div (x y : Binary64) : Binary64 :=
  ofRatio (x.isNegative != y.isNegative) (x.toRatio.1 * y.toRatio.2) (x.toRatio.2 * y.toRatio.1)

def ofNat (n : Nat) : Binary64 := ofRatio false n 1

/-- The nearest number to `digits` times a power of ten. Far outside the range of finite numbers
the power is not computed: above it the answer is infinity, below it zero. -/
def ofDecimal (negative : Bool) (digits : Nat) (e : Int) : Binary64 :=
  if digits = 0 ∨ e + digits.log2 < -1000 then zero negative
  else if e > 400 then infinity negative
  else ofRatio negative (digits * Nat.pow 10 e.toNat) (Nat.pow 10 (-e).toNat)

end AutoAnnotate.Binary64
