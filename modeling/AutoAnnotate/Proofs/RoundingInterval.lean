import AutoAnnotate.Binary64.Shortest
import Mathlib.Algebra.Order.Field.Rat
import Mathlib.Algebra.Order.Ring.Rat
import Mathlib.Tactic.Linarith
import Mathlib.Tactic.NormNum
import Mathlib.Tactic.Positivity
import Mathlib.Tactic.Ring
import Mathlib.Tactic.Zify
import Mathlib.Data.Rat.Cast.Order
/-!
# No rational number rounds to two numbers

The intervals of the finite magnitudes lie side by side: in ascending order of the bits, the upper
end of each is at or below the lower end of every later one (`upperEnd_le_lowerEnd`). Where two
intervals share an end, one significand is even and the other is odd, so that the end belongs to one
of them only. Hence a rational number determines the magnitude that it rounds to (`rank_eq_of_holds`).
-/

namespace AutoAnnotate.Binary64

/-- Whether a rational number lies in an interval. -/
def RoundingInterval.Holds (i : RoundingInterval) (v : ℚ) : Prop :=
  if i.closed then (i.lower / i.denominator : ℚ) ≤ v ∧ v ≤ (i.upper / i.denominator : ℚ)
  else (i.lower / i.denominator : ℚ) < v ∧ v < (i.upper / i.denominator : ℚ)

/-- The place of a number's magnitude among all, in ascending order. -/
def rank (x : Binary64) : Nat := x.exponentField * 2 ^ 52 + x.fractionField

/-! ## The ends of an interval, in quarters of the least positive number -/

/-- How far down an interval reaches, in quarters of a unit of the significand. -/
def gapBelow (x : Binary64) : Nat := if x.fractionField = 0 ∧ x.exponentField > 1 then 1 else 2

def lowerEnd (x : Binary64) : Nat := (4 * x.significand - x.gapBelow) * 2 ^ (x.exponentField - 1)

def upperEnd (x : Binary64) : Nat := (4 * x.significand + 2) * 2 ^ (x.exponentField - 1)

/-- How many quarters of the least positive number make one. -/
@[irreducible] def quartersInOne : Nat := 2 ^ 1076

theorem quartersInOne_pos : 0 < quartersInOne := by
  unfold quartersInOne
  positivity

variable {x y : Binary64}

theorem fractionField_lt (x : Binary64) : x.fractionField < 2 ^ 52 :=
  Nat.mod_lt _ (Nat.two_pow_pos 52)

theorem significand_lt (x : Binary64) : x.significand < 2 ^ 53 := by
  have hfraction := x.fractionField_lt
  unfold significand
  rw [Nat.pow_eq]
  split <;> omega

/-- One interval is above another if its number has a larger significand in the same units, or a
significand of 53 bits in larger units. -/
theorem upperEnd_le_lowerEnd (h : x.rank < y.rank) :
    x.upperEnd ≤ y.lowerEnd ∧
      (x.upperEnd = y.lowerEnd → x.significand % 2 ≠ y.significand % 2) := by
  have hx := x.fractionField_lt
  have hy := y.fractionField_lt
  have hpos := Nat.two_pow_pos (x.exponentField - 1)
  unfold rank at h
  unfold upperEnd lowerEnd
  rcases Nat.lt_or_ge (x.exponentField - 1) (y.exponentField - 1) with hscale | hscale
  -- In larger units the significand has all its 53 bits, and it counts twice at least.
  · have hends : 4 * x.significand + 2 ≤ (4 * y.significand - y.gapBelow) * 2 ∧
        (4 * x.significand + 2 = (4 * y.significand - y.gapBelow) * 2 →
          x.significand % 2 ≠ y.significand % 2) := by
      unfold significand gapBelow
      rw [Nat.pow_eq]
      split <;> split <;> split <;> omega
    have hpow : 2 * 2 ^ (x.exponentField - 1) ≤ 2 ^ (y.exponentField - 1) := by
      rw [← pow_succ']
      exact Nat.pow_le_pow_right (by decide) hscale
    have hle := Nat.mul_le_mul_left (4 * y.significand - y.gapBelow) hpow
    rw [← mul_assoc] at hle
    have hle' := Nat.mul_le_mul_right (2 ^ (x.exponentField - 1)) hends.1
    refine ⟨hle'.trans hle, fun heq => hends.2 ?_⟩
    exact Nat.eq_of_mul_eq_mul_right hpos (le_antisymm hle' (hle.trans heq.ge))
  -- In the same units the larger of two significands is larger by one at least.
  · have hsame : y.exponentField - 1 = x.exponentField - 1 := by omega
    have hends : 4 * x.significand + 2 ≤ 4 * y.significand - y.gapBelow ∧
        (4 * x.significand + 2 = 4 * y.significand - y.gapBelow →
          x.significand % 2 ≠ y.significand % 2) := by
      unfold significand gapBelow
      rw [Nat.pow_eq]
      split <;> split <;> split <;> omega
    rw [hsame]
    exact ⟨Nat.mul_le_mul_right _ hends.1, fun heq => hends.2 (Nat.eq_of_mul_eq_mul_right hpos heq)⟩

/-! ## Numbers that share a rational -/

/-- A number of quarters at the scale of an interval, as a multiple of a quarter of the least positive
number. -/
theorem quarters_eq (x : Binary64) (n : Nat) :
    ((n * Nat.pow 2 (x.exponent - 2).toNat : Nat) / (Nat.pow 2 (-(x.exponent - 2)).toNat : Nat) : ℚ) =
      (n * 2 ^ (x.exponentField - 1) : Nat) / quartersInOne := by
  have hpow : 2 ^ (x.exponent - 2).toNat * quartersInOne =
      2 ^ (x.exponentField - 1) * 2 ^ (-(x.exponent - 2)).toNat := by
    unfold quartersInOne exponent
    rw [← pow_add, ← pow_add]
    congr 1
    omega
  have hpos : (quartersInOne : ℚ) ≠ 0 := by exact_mod_cast quartersInOne_pos.ne'
  rw [div_eq_div_iff (by simp) hpos]
  norm_cast
  rw [mul_assoc, mul_assoc, Nat.pow_eq, Nat.pow_eq, hpow]

theorem holds_iff {v : ℚ} : (roundingInterval x).Holds v ↔
    if x.significand % 2 = 0 then
      (x.lowerEnd / quartersInOne : ℚ) ≤ v ∧ v ≤ (x.upperEnd / quartersInOne : ℚ)
    else (x.lowerEnd / quartersInOne : ℚ) < v ∧ v < (x.upperEnd / quartersInOne : ℚ) := by
  rw [lowerEnd, upperEnd, ← quarters_eq, ← quarters_eq]
  simp only [RoundingInterval.Holds, roundingInterval, gapBelow, decide_eq_true_eq]

theorem rank_le_of_holds {v : ℚ} (hx : (roundingInterval x).Holds v)
    (hy : (roundingInterval y).Holds v) : y.rank ≤ x.rank := by
  by_contra hlt
  obtain ⟨hle, hparity⟩ := upperEnd_le_lowerEnd (Nat.lt_of_not_le hlt)
  have hpos : (0 : ℚ) < quartersInOne := by exact_mod_cast quartersInOne_pos
  have hends : (x.upperEnd / quartersInOne : ℚ) ≤ y.lowerEnd / quartersInOne := by gcongr
  rw [holds_iff] at hx hy
  split at hx <;> split at hy
  case isTrue.isTrue heven heven' =>
    -- Both ends are the rational, so that the significands would have different parities.
    have heq : (x.upperEnd / quartersInOne : ℚ) = y.lowerEnd / quartersInOne :=
      le_antisymm hends (hy.1.trans hx.2)
    rw [div_left_inj' hpos.ne'] at heq
    exact hparity (by exact_mod_cast heq) (heven.trans heven'.symm)
  all_goals linarith [hx.2, hy.1]

/-- A rational number rounds to one magnitude only. -/
theorem rank_eq_of_holds {v : ℚ} (hx : (roundingInterval x).Holds v)
    (hy : (roundingInterval y).Holds v) : x.rank = y.rank :=
  le_antisymm (rank_le_of_holds hy hx) (rank_le_of_holds hx hy)

theorem eq_of_rank_eq (hsign : x.isNegative = y.isNegative) (hrank : x.rank = y.rank) : x = y := by
  obtain ⟨⟨bits⟩⟩ := x
  obtain ⟨⟨bits'⟩⟩ := y
  have hlt := bits.isLt
  have hlt' := bits'.isLt
  simp only [rank, isNegative, exponentField, fractionField, Nat.pow_eq, UInt64.toNat,
    decide_eq_decide] at hsign hrank
  have hbits : bits.toNat = bits'.toNat := by omega
  rw [BitVec.eq_of_toNat_eq hbits]

end AutoAnnotate.Binary64
