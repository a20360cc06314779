/-!
# Binary floating-point numbers of 64 bits

A `Binary64` is its bit pattern: a sign bit, eleven exponent bits and 52 fraction bits. Two notions
of sameness are kept apart. `=` compares bit patterns. `equal` compares numbers: a NaN equals
nothing, not even itself (`equal_self`), and the two zeros are equal.
-/

namespace AutoAnnotate

/-- A 64-bit binary floating-point number, given by its bits. -/
structure Binary64 where
  bits : UInt64
  deriving DecidableEq, Repr

namespace Binary64

/-- Whether the sign bit is set. -/
def isNegative (x : Binary64) : Bool := x.bits.toNat ≥ Nat.pow 2 63

/-- The eleven exponent bits. -/
def exponentField (x : Binary64) : Nat := x.bits.toNat / Nat.pow 2 52 % Nat.pow 2 11

/-- The 52 fraction bits. -/
def fractionField (x : Binary64) : Nat := x.bits.toNat % Nat.pow 2 52

def isFinite (x : Binary64) : Bool := x.exponentField ≠ 2047

def isNaN (x : Binary64) : Bool := x.exponentField = 2047 ∧ x.fractionField ≠ 0

def isZero (x : Binary64) : Bool := x.exponentField = 0 ∧ x.fractionField = 0

/-- A finite number is its significand times a power of two, up to its sign. -/
def significand (x : Binary64) : Nat :=
  if x.exponentField = 0 then x.fractionField else Nat.pow 2 52 + x.fractionField

/-- The power of two that scales the significand. -/
def exponent (x : Binary64) : Int := max (x.exponentField : Int) 1 - 1075

/-- Equality of numbers: never with a NaN, and the two zeros are equal. -/
def equal (x y : Binary64) : Bool :=
  !x.isNaN && !y.isNaN && (x = y || (x.isZero && y.isZero))

theorem equal_self (x : Binary64) : x.equal x = !x.isNaN := by simp [equal]

theorem equal_comm (x y : Binary64) : x.equal y = y.equal x := by
  have h : (decide (x = y)) = decide (y = x) := decide_eq_decide.2 eq_comm
  simp only [equal, h, Bool.and_comm x.isZero]
  cases x.isNaN <;> cases y.isNaN <;> rfl

/-- The number with a sign and the lower 63 bits, which order the magnitudes. -/
def ofMagnitude (negative : Bool) (magnitude : Nat) : Binary64 :=
  ⟨UInt64.ofNat (magnitude + if negative then Nat.pow 2 63 else 0)⟩

def zero (negative : Bool) : Binary64 := ofMagnitude negative 0

def infinity (negative : Bool) : Binary64 := ofMagnitude negative (2047 * Nat.pow 2 52)

/-- The quiet NaN with the smallest payload and a clear sign bit. -/
def nan : Binary64 := ofMagnitude false (2047 * Nat.pow 2 52 + Nat.pow 2 51)

end Binary64

end AutoAnnotate
