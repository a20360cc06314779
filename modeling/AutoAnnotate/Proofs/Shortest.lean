import AutoAnnotate.Proofs.RoundingInterval
import Mathlib.Algebra.Order.Field.Power
/-!
# The shortest decimal rounds to its number

The search for the shortest decimal takes points of one grid after the other only if they lie in the
interval of the number (`holds_firstHit`), and the grid of seventeen digits has such a point, because
its unit is smaller than the upper half of the interval (`seventeenth_unit_lt`). So the search does not
end without a decimal, and the decimal rounds to the number (`shortest_holds`).
-/

namespace AutoAnnotate.Binary64

/-- The rational number that a decimal stands for. -/
def Decimal.value (d : Decimal) : ℚ := d.digits * 10 ^ d.exponent

namespace RoundingInterval

variable {i : RoundingInterval} {tie : Tie} {n : Nat} {e : Int}

theorem ten_zpow_mul (e : Int) :
    (10 : ℚ) ^ e * (Nat.pow 10 (-e).toNat : Nat) = (Nat.pow 10 e.toNat : Nat) := by
  simp only [Nat.pow_eq, Nat.cast_pow, Nat.cast_ofNat]
  rw [← zpow_natCast, ← zpow_natCast, ← zpow_add₀ (by norm_num)]
  congr 1
  omega

theorem contains_inUnits (hden : 0 < i.denominator) :
    (i.inUnits e).contains n = true ↔ i.Holds (n * 10 ^ e) := by
  have hscale : (0 : ℚ) < i.denominator * (Nat.pow 10 (-e).toNat : Nat) := by
    have := Nat.pow_pos (a := 10) (n := (-e).toNat) (by decide)
    simp only [Nat.pow_eq]
    positivity
  have hend (a : Nat) : ((a * Nat.pow 10 (-e).toNat : Nat) : ℚ) =
      a / i.denominator * (i.denominator * (Nat.pow 10 (-e).toNat : Nat)) := by
    have : (i.denominator : ℚ) ≠ 0 := by exact_mod_cast hden.ne'
    rw [← mul_assoc, div_mul_cancel₀ _ this, Nat.cast_mul]
  have hpoint : ((n * (i.denominator * Nat.pow 10 e.toNat) : Nat) : ℚ) =
      n * 10 ^ e * (i.denominator * (Nat.pow 10 (-e).toNat : Nat)) := by
    rw [Nat.cast_mul, Nat.cast_mul, ← ten_zpow_mul]
    ring
  unfold contains Holds inUnits
  dsimp only
  split
  · rw [decide_eq_true_eq, ← Nat.cast_le (α := ℚ), ← Nat.cast_le (α := ℚ), hend, hend, hpoint,
      mul_le_mul_iff_of_pos_right hscale, mul_le_mul_iff_of_pos_right hscale]
  · rw [decide_eq_true_eq, ← Nat.cast_lt (α := ℚ), ← Nat.cast_lt (α := ℚ), hend, hend, hpoint,
      mul_lt_mul_iff_of_pos_right hscale, mul_lt_mul_iff_of_pos_right hscale]

theorem divNearest_cases (tie : Tie) (num den : Nat) :
    divNearest tie num den = num / den ∨ divNearest tie num den = num / den + 1 := by
  unfold divNearest
  dsimp only
  split
  · exact .inl rfl
  · exact .inr rfl

theorem contains_of_nearest? (h : i.nearest? tie = some n) : i.contains n = true := by
  unfold nearest? at h
  dsimp only at h
  split at h <;> cases h
  case h_1 hbelow habove =>
    rcases divNearest_cases tie i.number i.denominator with heq | heq
    · rwa [heq]
    · rwa [heq]
  all_goals assumption

theorem nearest?_ne_none (h : i.contains (i.number / i.denominator + 1) = true) :
    i.nearest? tie ≠ none := by
  unfold nearest?
  dsimp only
  rw [h]
  cases i.contains (i.number / i.denominator) <;> simp

/-- The search returns a decimal in the interval if one of the grids has a point in it. -/
theorem holds_firstHit (hden : 0 < i.denominator) {leading : Int} {counts : List Nat}
    (h : ∃ count ∈ counts, (i.inUnits (leading - count)).nearest? tie ≠ none) :
    i.Holds (i.firstHit tie leading counts).value := by
  induction counts with
  | nil => simp at h
  | cons count more ih =>
    unfold firstHit
    dsimp only
    split
    · next n hn => exact (contains_inUnits hden).1 (contains_of_nearest? hn)
    · next hnone =>
      refine ih ?_
      obtain ⟨c, hc, hit⟩ := h
      rcases List.mem_cons.1 hc with rfl | hc
      · exact absurd hnone hit
      · exact ⟨c, hc, hit⟩

/-! ## Seventeen digits are enough -/

/-- The grid point above the number lies in the interval if a unit is smaller than the upper half of
the interval. -/
theorem nearest?_ne_none_of_small (hden : 0 < i.denominator) (hlower : i.lower < i.number)
    (hunit : (10 : ℚ) ^ e * i.denominator < i.upper - i.number) :
    (i.inUnits e).nearest? tie ≠ none := by
  apply nearest?_ne_none
  rw [contains_inUnits hden]
  have hpos : (0 : ℚ) < i.denominator := by exact_mod_cast hden
  have hup : (0 : ℚ) < (Nat.pow 10 (-e).toNat : Nat) := by simp
  have hunits : 0 < (i.inUnits e).denominator :=
    Nat.mul_pos hden (by simp)
  have hbelow := Nat.div_mul_le_self (i.inUnits e).number (i.inUnits e).denominator
  have habove := Nat.lt_mul_div_succ (i.inUnits e).number hunits
  generalize (i.inUnits e).number / (i.inUnits e).denominator = q at hbelow habove ⊢
  simp only [inUnits] at hbelow habove
  rw [← Nat.cast_le (α := ℚ), Nat.cast_mul, Nat.cast_mul, Nat.cast_mul, ← ten_zpow_mul e] at hbelow
  rw [← Nat.cast_lt (α := ℚ), Nat.cast_mul, Nat.cast_mul, Nat.cast_mul, ← ten_zpow_mul e] at habove
  have hle : q * 10 ^ e * i.denominator ≤ (i.number : ℚ) :=
    le_of_mul_le_mul_right (by linarith) hup
  have hlt : (i.number : ℚ) < (q + 1 : Nat) * 10 ^ e * i.denominator :=
    lt_of_mul_lt_mul_right (by linarith) hup.le
  have hlower' : (i.lower : ℚ) < i.number := by exact_mod_cast hlower
  have hinside : (i.lower / i.denominator : ℚ) < (q + 1 : Nat) * 10 ^ e ∧
      (q + 1 : Nat) * 10 ^ e < (i.upper / i.denominator : ℚ) := by
    rw [div_lt_iff₀ hpos, lt_div_iff₀ hpos]
    refine ⟨hlower'.trans hlt, ?_⟩
    push_cast
    linarith
  unfold Holds
  split
  · exact ⟨hinside.1.le, hinside.2.le⟩
  · exact hinside

/-- Where `q / p` is a little more than the logarithm of two to the base ten. -/
theorem ten_zpow_le_two_zpow {p q : Nat} (hp : 0 < p) (hbelow : 2 ^ p ≤ 10 ^ q)
    (habove : 10 ^ q ≤ 2 ^ (p + 1)) {bits g : Int} (hg : g * p ≤ bits * q) (hbits : bits ≤ p) :
    (10 : ℚ) ^ g ≤ 2 ^ (bits + 1) := by
  have hbelow' : (2 : ℚ) ^ p ≤ 10 ^ q := by exact_mod_cast hbelow
  have habove' : (10 : ℚ) ^ q ≤ 2 ^ (p + 1) := by exact_mod_cast habove
  -- Both sides to the power of `p`, so that only whole exponents are compared.
  rw [← pow_le_pow_iff_left₀ (by positivity) (by positivity) hp.ne', ← zpow_natCast, ← zpow_natCast,
    ← zpow_mul, ← zpow_mul]
  calc (10 : ℚ) ^ (g * p) ≤ 10 ^ (bits * q) := zpow_le_zpow_right₀ (by norm_num) hg
    _ = (10 ^ q) ^ bits := by rw [mul_comm, zpow_mul, zpow_natCast]
    _ ≤ 2 ^ ((bits + 1) * p) := ?_
  rcases Int.le_total 0 bits with hsign | hsign
  · calc ((10 : ℚ) ^ q) ^ bits ≤ (2 ^ (p + 1)) ^ bits :=
          zpow_le_zpow_left₀ hsign (by positivity) habove'
      _ = 2 ^ ((p + 1 : Nat) * bits) := by rw [zpow_mul, zpow_natCast]
      _ ≤ 2 ^ ((bits + 1) * p) := by
          refine zpow_le_zpow_right₀ (by norm_num) ?_
          push_cast
          linarith
  · obtain ⟨n, rfl⟩ := Int.exists_eq_neg_ofNat hsign
    calc ((10 : ℚ) ^ q) ^ (-(n : Int)) ≤ (2 ^ p) ^ (-(n : Int)) := by
          rw [zpow_neg, zpow_neg, zpow_natCast, zpow_natCast]
          gcongr
      _ = 2 ^ (p * -(n : Int)) := by rw [zpow_mul, zpow_natCast]
      _ ≤ 2 ^ ((-(n : Int) + 1) * p) := by
          refine zpow_le_zpow_right₀ (by norm_num) ?_
          linarith

/-- The number is at least the power of ten with its leading exponent: the guess from the lengths of
numerator and denominator is too large by two at most. -/
theorem leadingExponent_le (hden : 0 < i.denominator) (hnumber : 0 < i.number)
    (hsize : i.number.log2 ≤ 100000) :
    (10 : ℚ) ^ i.leadingExponent * i.denominator ≤ i.number := by
  have hfits (e : Int) : i.denominator * Nat.pow 10 e.toNat ≤ i.number * Nat.pow 10 (-e).toNat ↔
      (10 : ℚ) ^ e * i.denominator ≤ i.number := by
    rw [← Nat.cast_le (α := ℚ), Nat.cast_mul, Nat.cast_mul, ← ten_zpow_mul e, ← mul_assoc,
      mul_comm (i.denominator : ℚ), mul_le_mul_iff_of_pos_right (by simp)]
  unfold leadingExponent
  simp only [hfits, decide_eq_true_eq]
  split_ifs
  -- Where the guess fits, or the guess less one, there is nothing to show.
  case neg =>
    generalize hbits : (i.number.log2 : Int) - i.denominator.log2 = bits
    have hguess : (10 : ℚ) ^ (bits * 30103 / 100000) ≤ 2 ^ (bits + 1) :=
      ten_zpow_le_two_zpow (p := 100000) (q := 30103) (by decide) (by decide +kernel)
        (by decide +kernel) (by omega) (by omega)
    generalize bits * 30103 / 100000 = g at hguess
    have hnum : (2 : ℚ) ^ i.number.log2 ≤ i.number := by
      exact_mod_cast Nat.log2_self_le hnumber.ne'
    have hden' : (i.denominator : ℚ) ≤ 2 ^ (i.denominator.log2 + 1) := by
      exact_mod_cast Nat.lt_log2_self.le
    have hprod : (2 : ℚ) ^ (bits + 1) * 2 ^ (i.denominator.log2 + 1) = 4 * 2 ^ i.number.log2 := by
      rw [← zpow_natCast, ← zpow_natCast, ← zpow_add₀ (by norm_num), ← hbits,
        show ((i.number.log2 : Int) - i.denominator.log2 + 1 + (i.denominator.log2 + 1 : Nat)) =
          2 + i.number.log2 by push_cast; ring, zpow_add₀ (by norm_num)]
      norm_num
    calc (10 : ℚ) ^ (g - 2) * i.denominator = 10 ^ g * i.denominator / 100 := by
          rw [zpow_sub₀ (by norm_num)]; ring
      _ ≤ 2 ^ (bits + 1) * 2 ^ (i.denominator.log2 + 1) / 100 := by gcongr
      _ = 4 * 2 ^ i.number.log2 / 100 := by rw [hprod]
      _ ≤ i.number := by linarith
  all_goals assumption

end RoundingInterval

/-! ## The interval of a number -/

variable {x : Binary64}

theorem significand_pos (h : ¬x.isZero = true) : 0 < x.significand := by
  simp only [isZero, decide_eq_true_eq] at h
  unfold significand
  rw [Nat.pow_eq]
  split <;> omega

theorem log2_number_le (h : 0 < x.significand) : (roundingInterval x).number.log2 ≤ 1024 := by
  have hsignificand := x.significand_lt
  have hscale : (x.exponent - 2).toNat ≤ 970 := by
    have : x.exponentField < 2048 := Nat.mod_lt _ (by decide)
    unfold exponent
    omega
  have hlt : (roundingInterval x).number < 2 ^ (55 + (x.exponent - 2).toNat) := by
    rw [pow_add]
    exact Nat.mul_lt_mul_of_pos_right (by omega) (by simp)
  have hne : (roundingInterval x).number ≠ 0 := by
    simp [roundingInterval]; omega
  have := (Nat.log2_lt hne).2 hlt
  omega

/-- A unit of the seventeenth digit is smaller than the upper half of the interval. -/
theorem seventeenth_unit_lt (h : 0 < x.significand) :
    (10 : ℚ) ^ ((roundingInterval x).leadingExponent - (17 : Nat)) * (roundingInterval x).denominator <
      (roundingInterval x).upper - (roundingInterval x).number := by
  have hscale : 0 < Nat.pow 2 (x.exponent - 2).toNat := by simp
  have hnumber : (roundingInterval x).number = 4 * x.significand * Nat.pow 2 (x.exponent - 2).toNat :=
    rfl
  have hupper : (roundingInterval x).upper =
    (4 * x.significand + 2) * Nat.pow 2 (x.exponent - 2).toNat := rfl
  have hden : 0 < (roundingInterval x).denominator := by simp [roundingInterval]
  have hleading := RoundingInterval.leadingExponent_le hden (Nat.mul_pos (by omega) hscale)
    ((log2_number_le h).trans (by decide))
  rw [hupper, hnumber]
  rw [hnumber] at hleading
  push_cast at hleading ⊢
  have hscale' : (0 : ℚ) < (Nat.pow 2 (x.exponent - 2).toNat : Nat) := by exact_mod_cast hscale
  have hlt : (x.significand : ℚ) < 2 ^ 53 := by exact_mod_cast x.significand_lt
  generalize (roundingInterval x).leadingExponent = leading at hleading ⊢
  generalize ((Nat.pow 2 (x.exponent - 2).toNat : Nat) : ℚ) = scale at *
  calc (10 : ℚ) ^ (leading - (17 : Nat)) * (roundingInterval x).denominator
      = 10 ^ leading * (roundingInterval x).denominator / 10 ^ 17 := by
        rw [zpow_sub₀ (by norm_num), zpow_natCast]; ring
    _ ≤ 4 * x.significand * scale / 10 ^ 17 := by gcongr
    _ < (4 * x.significand + 2) * scale - 4 * x.significand * scale := by
        nlinarith

/-- The shortest decimal of a number rounds to it. -/
theorem shortest_holds (x : Binary64) (tie : Tie) :
    (roundingInterval x).Holds (x.shortest tie).value := by
  unfold shortest
  split
  · next hzero =>
    have hsignificand : x.significand = 0 := by
      simp only [isZero, decide_eq_true_eq] at hzero
      simp [significand, hzero]
    have hlower : x.lowerEnd = 0 := by
      simp [lowerEnd, hsignificand]
    rw [holds_iff, hsignificand, hlower]
    simp only [Decimal.value]
    refine ⟨by simp, ?_⟩
    simp
    positivity
  · next hzero =>
    have hpos := significand_pos hzero
    have hden : 0 < (roundingInterval x).denominator := by simp [roundingInterval]
    have hlower : (roundingInterval x).lower < (roundingInterval x).number := by
      refine Nat.mul_lt_mul_of_pos_right ?_ (by simp)
      split <;> omega
    exact RoundingInterval.holds_firstHit hden ⟨17, by decide,
      RoundingInterval.nearest?_ne_none_of_small hden hlower (seventeenth_unit_lt hpos)⟩

end AutoAnnotate.Binary64
