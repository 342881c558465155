import Mathlib.Algebra.Order.Field.Power
import Mathlib.Data.Int.Log
import Mathlib.Data.Rat.Floor
import Mathlib.Tactic.FieldSimp
import Mathlib.Tactic.GCongr
import Mathlib.Tactic.Positivity
import RobotRules.Proofs.Double

/-! Rounding. The number nearest to a ratio depends on the value of the ratio alone, and the
ratio of a finite number is rounded to that number. -/

namespace RobotRules.Double

/-- A power as a quotient of two powers of natural numbers, of which one is one. -/
theorem zpow_eq_div (base : ℚ) (power : Int) :
    base ^ power = base ^ power.toNat / base ^ (-power).toNat := by
  cases power with
  | ofNat power => simp
  | negSucc power =>
      have positive : (-Int.negSucc power).toNat = power + 1 := rfl
      rw [zpow_negSucc, positive]
      simp

variable {numerator denominator numerator' denominator' : Nat}

theorem div_lt_zpow_iff {base : Nat} (basePos : 0 < base) (denominatorPos : 0 < denominator)
    (power : Int) : (numerator : ℚ) / denominator < (base : ℚ) ^ power ↔
      numerator * base ^ (-power).toNat < denominator * base ^ power.toNat := by
  have lowPos : (0 : ℚ) < (base : ℚ) ^ (-power).toNat := by positivity
  have castPos : (0 : ℚ) < denominator := Nat.cast_pos.mpr denominatorPos
  rw [zpow_eq_div, div_lt_div_iff₀ castPos lowPos, mul_comm _ (denominator : ℚ)]
  exact_mod_cast Iff.rfl

/-- The logarithm is the only power between which and the next one a number lies. -/
theorem log_eq {base : Nat} (large : 1 < base) {value : ℚ} {power : Int}
    (reached : (base : ℚ) ^ power ≤ value) (below : value < (base : ℚ) ^ (power + 1)) :
    Int.log base value = power := by
  have basePos : (0 : ℚ) < base := by positivity
  have positive : 0 < value := (zpow_pos basePos power).trans_le reached
  have atLeast := (Int.zpow_le_iff_le_log large positive).mp reached
  have less := (Int.lt_zpow_iff_log_lt large positive).mp below
  omega

/-- The logarithms of numerator and denominator give that of the ratio but for one. -/
theorem ratio_bounds (numeratorPos : 0 < numerator) (denominatorPos : 0 < denominator) :
    let estimate : Int := numerator.log2 - denominator.log2
    (2 : ℚ) ^ (estimate - 1) ≤ numerator / denominator ∧
      (numerator : ℚ) / denominator < 2 ^ (estimate + 1) := by
  intro estimate
  have castPos : (0 : ℚ) < denominator := Nat.cast_pos.mpr denominatorPos
  have numeratorLow : (2 : ℚ) ^ numerator.log2 ≤ numerator := by
    exact_mod_cast Nat.log2_self_le (by omega)
  have numeratorHigh : (numerator : ℚ) < 2 ^ (numerator.log2 + 1) := by
    exact_mod_cast Nat.lt_log2_self
  have denominatorLow : (2 : ℚ) ^ denominator.log2 ≤ denominator := by
    exact_mod_cast Nat.log2_self_le (by omega)
  have denominatorHigh : (denominator : ℚ) < 2 ^ (denominator.log2 + 1) := by
    exact_mod_cast Nat.lt_log2_self
  constructor
  · rw [le_div_iff₀ castPos]
    calc (2 : ℚ) ^ (estimate - 1) * denominator
      _ ≤ 2 ^ (estimate - 1) * 2 ^ (denominator.log2 + 1) := by gcongr
      _ = 2 ^ numerator.log2 := by
        rw [← zpow_natCast, ← zpow_natCast, ← zpow_add₀ two_ne_zero]
        congr 1
        push_cast
        omega
      _ ≤ numerator := numeratorLow
  · rw [div_lt_iff₀ castPos]
    calc (numerator : ℚ)
      _ < 2 ^ (numerator.log2 + 1) := numeratorHigh
      _ = 2 ^ (estimate + 1) * 2 ^ denominator.log2 := by
        rw [← zpow_natCast, ← zpow_natCast, ← zpow_add₀ two_ne_zero]
        congr 1
        push_cast
        omega
      _ ≤ 2 ^ (estimate + 1) * denominator := by gcongr

theorem floorLog2_eq_log (numeratorPos : 0 < numerator) (denominatorPos : 0 < denominator) :
    floorLog2 numerator denominator = Int.log 2 ((numerator : ℚ) / denominator) := by
  have bounds := ratio_bounds numeratorPos denominatorPos
  have reaches := @div_lt_zpow_iff numerator denominator 2 (by decide) denominatorPos
    (numerator.log2 - denominator.log2)
  push_cast at reaches
  unfold floorLog2
  dsimp only
  split_ifs with small
  · have less := reaches.mpr small
    refine (log_eq (by decide) ?_ ?_).symm
    · exact_mod_cast bounds.1
    · rw [sub_add_cancel]
      simpa using less
  · have notLess := not_lt.mp (mt reaches.mp small)
    refine (log_eq (by decide) ?_ ?_).symm
    · exact_mod_cast notLess
    · exact_mod_cast bounds.2

theorem roundedQuotient_mul {factor : Nat} (positive : 0 < factor)
    (numerator denominator : Nat) :
    roundedQuotient (numerator * factor) (denominator * factor) =
      roundedQuotient numerator denominator := by
  have twice : 2 * (numerator % denominator * factor) = 2 * (numerator % denominator) * factor :=
    (Nat.mul_assoc _ _ _).symm
  unfold roundedQuotient
  rw [Nat.mul_div_mul_right _ _ positive, Nat.mul_mod_mul_right, twice]
  dsimp only
  simp only [Nat.mul_lt_mul_right positive]

theorem roundedQuotient_congr (positive : 0 < denominator) (positive' : 0 < denominator')
    (equal : numerator * denominator' = numerator' * denominator) :
    roundedQuotient numerator denominator = roundedQuotient numerator' denominator' := by
  rw [← roundedQuotient_mul positive', equal, Nat.mul_comm denominator,
    roundedQuotient_mul positive]

theorem roundedQuotient_of_dvd (positive : 0 < denominator) (quotient : Nat) :
    roundedQuotient (quotient * denominator) denominator = quotient := by
  unfold roundedQuotient
  simp [Nat.mul_div_cancel _ positive, positive]

/-- The nearest number depends on the value of the ratio alone. -/
theorem ofRatio_congr (negative : Bool) (positive : 0 < denominator)
    (positive' : 0 < denominator')
    (equal : numerator * denominator' = numerator' * denominator) :
    ofRatio negative numerator denominator = ofRatio negative numerator' denominator' := by
  by_cases zero : numerator = 0
  · have zero' : numerator' = 0 := by
      rw [zero, Nat.zero_mul] at equal
      exact (Nat.mul_eq_zero.mp equal.symm).resolve_right positive.ne'
    simp [ofRatio, zero, zero']
  · have zero' : numerator' ≠ 0 := by
      rintro rfl
      rw [Nat.zero_mul] at equal
      exact zero ((Nat.mul_eq_zero.mp equal).resolve_right positive'.ne')
    have ratios : (numerator : ℚ) / denominator = numerator' / denominator' := by
      rw [div_eq_div_iff (by positivity) (by positivity)]
      exact_mod_cast equal
    have logs : floorLog2 numerator denominator = floorLog2 numerator' denominator' := by
      rw [floorLog2_eq_log (Nat.pos_of_ne_zero zero) positive,
        floorLog2_eq_log (Nat.pos_of_ne_zero zero') positive', ratios]
    unfold ofRatio
    rw [if_neg zero, if_neg zero', logs]
    dsimp only
    congr 2
    refine roundedQuotient_congr ?_ ?_ ?_
    · exact Nat.mul_pos positive (Nat.pow_pos (by decide))
    · exact Nat.mul_pos positive' (Nat.pow_pos (by decide))
    · rw [mul_mul_mul_comm, equal, mul_mul_mul_comm]

/-! Finite numbers. -/

theorem significand_lt (x : Double) : x.significand < 2 ^ 53 := by
  rw [significand_eq]
  split_ifs <;> omega

/-- A number that is not in the lowest binade has all the digits that fit. -/
theorem le_significand {x : Double} (high : -1074 < x.exponent) : 2 ^ 52 ≤ x.significand := by
  rw [exponent_eq] at high
  rw [significand_eq]
  split_ifs at high ⊢ <;> omega

/-- The value of a finite number without its sign. -/
def value (x : Double) : ℚ := x.significand * (2 : ℚ) ^ x.exponent

theorem value_eq_div (x : Double) : x.value = (x.ratio.1 : ℚ) / x.ratio.2 := by
  rw [value, ratio_eq, zpow_eq_div, ← mul_div_assoc]
  push_cast
  rfl

/-- The place that is rounded to is that of the last digit of the number. -/
theorem max_floorLog2_ratio {x : Double} (nonzero : x.significand ≠ 0) :
    max (floorLog2 x.ratio.1 x.ratio.2 - 52) (-1074) = x.exponent := by
  have numeratorPos : 0 < x.ratio.1 := Nat.mul_pos (by omega) (Nat.two_pow_pos _)
  have positive : 0 < x.value := by
    have : (0 : ℚ) < x.significand := by positivity
    unfold value
    positivity
  -- in the lowest binade the significand may be short, but there the maximum decides
  have below : floorLog2 x.ratio.1 x.ratio.2 < x.exponent + 53 := by
    rw [floorLog2_eq_log numeratorPos (ratio_snd_pos x), ← value_eq_div,
      ← Int.lt_zpow_iff_log_lt (by decide) positive, value]
    push_cast
    rw [add_comm, zpow_add₀ two_ne_zero]
    gcongr
    exact_mod_cast significand_lt x
  have atLeast : -1074 < x.exponent → x.exponent + 52 ≤ floorLog2 x.ratio.1 x.ratio.2 := by
    intro high
    rw [floorLog2_eq_log numeratorPos (ratio_snd_pos x), ← value_eq_div,
      ← Int.zpow_le_iff_le_log (by decide) positive, value]
    push_cast
    rw [add_comm, zpow_add₀ two_ne_zero]
    gcongr
    exact_mod_cast le_significand high
  have low := exponent_ge x
  omega

theorem magnitude_eq (x : Double) :
    (x.exponent + 1074).toNat * 2 ^ 52 + x.significand = x.magnitude := by
  rw [exponent_eq, significand_eq]
  by_cases subnormal : x.magnitude < 2 ^ 52
  · rw [if_pos subnormal, if_pos subnormal]
    exact Nat.zero_add _
  · have field : ((x.magnitude / 2 ^ 52 : Nat) - 1075 + 1074 : Int).toNat =
        x.magnitude / 2 ^ 52 - 1 := by omega
    rw [if_neg subnormal, if_neg subnormal, field]
    omega

theorem ofMagnitude_magnitude (x : Double) : ofMagnitude x.negative x.magnitude = x :=
  eq_of_magnitude rfl (Nat.min_eq_left x.bounded)

theorem magnitude_eq_zero {x : Double} (zero : x.significand = 0) : x.magnitude = 0 := by
  rw [significand_eq] at zero
  by_cases subnormal : x.magnitude < 2 ^ 52
  · rwa [if_pos subnormal] at zero
  · rw [if_neg subnormal] at zero
    omega

/-- A number is the one nearest to its own ratio. -/
theorem ofRatio_ratio (x : Double) : ofRatio x.negative x.ratio.1 x.ratio.2 = x := by
  unfold ofRatio
  by_cases zero : x.significand = 0
  · have noRatio : x.ratio.1 = 0 := by rw [ratio_eq, zero, Nat.zero_mul]
    rw [if_pos noRatio, ← magnitude_eq_zero zero, ofMagnitude_magnitude]
  · have nonzero : x.ratio.1 ≠ 0 := Nat.mul_ne_zero zero (Nat.two_pow_pos _).ne'
    have factors : x.ratio.1 * 2 ^ (-x.exponent).toNat =
        x.significand * (x.ratio.2 * 2 ^ x.exponent.toNat) := by
      rw [ratio_eq, Nat.mul_assoc, Nat.mul_comm (2 ^ x.exponent.toNat)]
    have divisorPos : 0 < x.ratio.2 * 2 ^ x.exponent.toNat :=
      Nat.mul_pos (ratio_snd_pos x) (Nat.two_pow_pos _)
    rw [if_neg nonzero, max_floorLog2_ratio zero]
    simp only [Nat.pow_eq]
    rw [factors, roundedQuotient_of_dvd divisorPos, magnitude_eq, ofMagnitude_magnitude]

end RobotRules.Double
