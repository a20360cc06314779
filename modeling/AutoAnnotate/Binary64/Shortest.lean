import AutoAnnotate.Binary64.Rounding
/-!
# The shortest decimal that reads back

A finite number stands for every real that rounds to it: an interval around it that reaches half
way to its neighbours, ends included if its significand is even. The shortest decimal is the one
with the fewest digits inside that interval, and of those the nearest to the number; where two are
equally near, a `Tie` decides. It is found by trying one digit, then two, and so on up to seventeen,
and looking at the two neighbours of the number on the grid with that many digits.
-/

namespace AutoAnnotate.Binary64

/-- A decimal: the digits form a natural number, which is scaled by a power of ten. -/
structure Decimal where
  digits : Nat
  exponent : Int
  deriving DecidableEq, Repr

/-- The interval of reals that round to a finite number other than zero, and the number itself, as
numerators over one denominator. -/
structure RoundingInterval where
  lower : Nat
  number : Nat
  upper : Nat
  denominator : Nat
  closed : Bool

/-- Below a power of two the neighbours are twice as dense as above it. -/
def roundingInterval (x : Binary64) : RoundingInterval :=
  let m := x.significand
  let e := x.exponent - 2
  let scale := Nat.pow 2 e.toNat
  let gapBelow := if x.fractionField = 0 ∧ x.exponentField > 1 then 1 else 2
  { lower := (4 * m - gapBelow) * scale
    number := 4 * m * scale
    upper := (4 * m + 2) * scale
    denominator := Nat.pow 2 (-e).toNat
    closed := m % 2 = 0 }

namespace RoundingInterval

/-- The interval in units of a power of ten. -/
def inUnits (i : RoundingInterval) (e : Int) : RoundingInterval :=
  let up := Nat.pow 10 (-e).toNat
  { i with
    lower := i.lower * up
    number := i.number * up
    upper := i.upper * up
    denominator := i.denominator * Nat.pow 10 e.toNat }

/-- Whether a natural number lies in the interval. -/
def contains (i : RoundingInterval) (n : Nat) : Bool :=
  let scaled := n * i.denominator
  if i.closed then decide (i.lower ≤ scaled ∧ scaled ≤ i.upper)
  else decide (i.lower < scaled ∧ scaled < i.upper)

/-- The natural number in the interval that is nearest to the number it belongs to, if one of the
number's two neighbours is in it. -/
def nearest? (i : RoundingInterval) (tie : Tie) : Option Nat :=
  let below := i.number / i.denominator
  match i.contains below, i.contains (below + 1) with
  | true, true => some (divNearest tie i.number i.denominator)
  | true, false => some below
  | false, true => some (below + 1)
  | false, false => none

/-- The exponent of the leading digit: the largest power of ten that is not above the number. -/
def leadingExponent (i : RoundingInterval) : Int :=
  let bits : Int := i.number.log2 - i.denominator.log2
  let guess := bits * 30103 / 100000
  let fits (e : Int) : Bool :=
    i.denominator * Nat.pow 10 e.toNat ≤ i.number * Nat.pow 10 (-e).toNat
  if fits (guess + 1) then guess + 1
  else if fits guess then guess
  else if fits (guess - 1) then guess - 1
  else guess - 2

/-- The first grid, from one digit on, with a point in the interval. -/
def firstHit (i : RoundingInterval) (tie : Tie) (leading : Int) : List Nat → Decimal
  | [] => ⟨0, 0⟩
  | count :: more =>
    let e := leading - count
    match (i.inUnits e).nearest? tie with
    | some n => ⟨n, e⟩
    | none => firstHit i tie leading more

end RoundingInterval

/-- The shortest decimal of a finite number's magnitude. -/
def shortest (x : Binary64) (tie : Tie) : Decimal :=
  if x.isZero then ⟨0, 0⟩
  else
    let i := roundingInterval x
    i.firstHit tie i.leadingExponent (List.range 18)

end AutoAnnotate.Binary64
