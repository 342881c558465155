import Mathlib.Tactic.NormNum
import Mathlib.Tactic.Ring
import RobotRules.Number.Decimal
import RobotRules.Proofs.Double.Rounding
import RobotRules.Proofs.Number

/-! Decimals. What number a decimal reads as depends on its value alone, and the shortest
decimal of a finite number reads as that number. -/

namespace RobotRules

namespace Decimal

def value (decimal : Decimal) : ℚ := decimal.digits * (10 : ℚ) ^ decimal.exponent

theorem value_eq_div (decimal : Decimal) : decimal.value =
    (decimal.digits * 10 ^ decimal.exponent.toNat : Nat) /
      (10 ^ (-decimal.exponent).toNat : Nat) := by
  rw [value, Double.zpow_eq_div, ← mul_div_assoc]
  push_cast
  rfl

theorem value_eq_zero_iff {decimal : Decimal} : decimal.value = 0 ↔ decimal.digits = 0 := by
  rw [value, mul_eq_zero, Nat.cast_eq_zero]
  exact or_iff_left (zpow_ne_zero _ (by norm_num))

/-- The place behind the first digit is told by the value. -/
theorem log_value {decimal : Decimal} (nonzero : decimal.digits ≠ 0) :
    Int.log 10 decimal.value + 1 =
      decimal.exponent + (Number.writeNat decimal.digits).length := by
  let count := (Number.writeNat decimal.digits).length
  have below : decimal.digits < 10 ^ count := Number.lt_pow_length_writeNat _
  have reached : 10 ^ (count - 1) ≤ decimal.digits := Number.pow_length_writeNat_le nonzero
  have countPos : 0 < count := List.length_pos_iff.mpr Nat.toDigits_ne_nil
  have log : Int.log 10 decimal.value = decimal.exponent + count - 1 := by
    have scale : (0 : ℚ) < 10 ^ decimal.exponent := zpow_pos (by norm_num) _
    apply Double.log_eq (by decide)
    · calc ((10 : Nat) : ℚ) ^ (decimal.exponent + count - 1)
        _ = 10 ^ (count - 1) * 10 ^ decimal.exponent := by
          rw [← zpow_natCast, ← zpow_add₀ (by norm_num)]
          congr 1
          omega
        _ ≤ decimal.value := by
          unfold value
          gcongr
          exact_mod_cast reached
    · calc decimal.value
        _ < 10 ^ count * 10 ^ decimal.exponent := by
          unfold value
          gcongr
          exact_mod_cast below
        _ = ((10 : Nat) : ℚ) ^ (decimal.exponent + count - 1 + 1) := by
          rw [← zpow_natCast, ← zpow_add₀ (by norm_num)]
          congr 1
          omega
  rw [log]
  omega

/-- Decimals of the same value read as the same number. -/
theorem toDouble_congr {left right : Decimal} (equal : left.value = right.value)
    (negative : Bool) : left.toDouble negative = right.toDouble negative := by
  by_cases zero : left.digits = 0
  · have zero' : right.digits = 0 := by
      rwa [← value_eq_zero_iff, ← equal, value_eq_zero_iff]
    simp [toDouble, zero, zero']
  · have zero' : right.digits ≠ 0 := by
      rwa [Ne, ← value_eq_zero_iff, ← equal, value_eq_zero_iff]
    have heights := (log_value zero).symm.trans (equal ▸ log_value zero')
    have cross : left.digits * 10 ^ left.exponent.toNat * 10 ^ (-right.exponent).toNat =
        right.digits * 10 ^ right.exponent.toNat * 10 ^ (-left.exponent).toNat := by
      rw [value_eq_div, value_eq_div, div_eq_div_iff (by positivity) (by positivity)] at equal
      exact_mod_cast equal
    unfold toDouble
    dsimp only
    rw [heights]
    simp only [zero, zero', Nat.pow_eq]
    rw [Double.ofRatio_congr negative (Nat.pow_pos (by decide)) (Nat.pow_pos (by decide)) cross]

theorem value_reduceIn (steps : Nat) (decimal : Decimal) :
    (reduceIn steps decimal).value = decimal.value := by
  induction steps generalizing decimal with
  | zero => rfl
  | succ steps induction =>
      unfold reduceIn
      split_ifs with ends
      · have whole : (decimal.digits : ℚ) = (decimal.digits / 10 : Nat) * 10 := by
          exact_mod_cast (Nat.div_mul_cancel (Nat.dvd_of_mod_eq_zero ends.1)).symm
        rw [induction, value, value, whole, zpow_add_one₀ (by norm_num)]
        ring
      · rfl

theorem value_reduce (decimal : Decimal) : decimal.reduce.value = decimal.value :=
  value_reduceIn _ decimal

end Decimal

namespace Double

theorem value_exactDecimal (x : Double) : x.exactDecimal.value = x.value := by
  unfold exactDecimal
  by_cases whole : 0 ≤ x.exponent
  · have low : (-x.exponent).toNat = 0 := by omega
    rw [if_pos whole, value, Decimal.value, zpow_eq_div 2, low]
    simp
  · have high : x.exponent.toNat = 0 := by omega
    have ten : (10 : ℚ) ^ (-x.exponent).toNat =
        5 ^ (-x.exponent).toNat * 2 ^ (-x.exponent).toNat := by
      rw [← mul_pow]
      norm_num
    rw [if_neg whole, value, Decimal.value, zpow_eq_div 2, zpow_eq_div 10, high, ten,
      Nat.pow_eq]
    push_cast
    field_simp

theorem lt_exponent {x : Double} (finite : x.isInfinite = false) : x.exponent < 972 := by
  have bounded := x.bounded
  have notInfinite : x.magnitude ≠ infinite := by simpa [isInfinite] using finite
  have below : x.magnitude < 2047 * 2 ^ 52 := Nat.lt_of_le_of_ne bounded notInfinite
  rw [exponent_eq]
  split_ifs <;> omega

theorem value_pos {x : Double} (nonzero : x.significand ≠ 0) : 0 < x.value :=
  mul_pos (Nat.cast_pos.mpr (Nat.pos_of_ne_zero nonzero)) (zpow_pos two_pos _)

/-- Finite numbers have at most 310 digits before the point. -/
theorem value_lt {x : Double} (finite : x.isInfinite = false) :
    x.value < ((10 : Nat) : ℚ) ^ (310 : Int) := by
  have exponentLe : x.exponent ≤ 971 := Int.le_of_lt_add_one (lt_exponent finite)
  calc x.value
    _ ≤ 2 ^ 53 * (2 : ℚ) ^ (971 : Int) := by
      have significandLe : (x.significand : ℚ) ≤ 2 ^ 53 := by
        exact_mod_cast (significand_lt x).le
      unfold value
      gcongr
      norm_num
    _ < ((10 : Nat) : ℚ) ^ (310 : Int) := by
      have powers : 2 ^ 53 * 2 ^ 971 < 10 ^ 310 := by decide +kernel
      exact_mod_cast powers

/-- Numbers other than zero begin before the 332nd place behind the point. -/
theorem le_value {x : Double} (nonzero : x.significand ≠ 0) :
    ((10 : Nat) : ℚ) ^ (-331 : Int) ≤ x.value := by
  have exponentGe := exponent_ge x
  calc ((10 : Nat) : ℚ) ^ (-331 : Int)
    _ ≤ 1 * (2 : ℚ) ^ (-1074 : Int) := by
      have powers : 2 ^ 1074 ≤ 10 ^ 331 := by decide +kernel
      rw [one_mul, zpow_neg, zpow_neg]
      gcongr
      exact_mod_cast powers
    _ ≤ x.value := by
      have significandGe : (1 : ℚ) ≤ x.significand := by
        exact_mod_cast Nat.pos_of_ne_zero nonzero
      unfold value
      gcongr
      norm_num

/-- A decimal of the value of a finite number reads as that number. -/
theorem toDouble_of_value_eq {x : Double} (finite : x.isInfinite = false) {decimal : Decimal}
    (equal : decimal.value = x.value) : decimal.toDouble x.negative = x := by
  by_cases zero : x.significand = 0
  · have noDigits : decimal.digits = 0 := by
      rw [← Decimal.value_eq_zero_iff, equal, value, zero]
      simp
    rw [Decimal.toDouble, noDigits, ← ofMagnitude_magnitude x, magnitude_eq_zero zero]
    rfl
  · have nonzero : decimal.digits ≠ 0 := by
      rw [Ne, ← Decimal.value_eq_zero_iff, equal]
      exact (value_pos zero).ne'
    have height := Decimal.log_value nonzero
    have positive : 0 < decimal.value := by
      rw [equal]
      exact value_pos zero
    have high : Int.log 10 decimal.value < 310 := by
      rw [← Int.lt_zpow_iff_log_lt (by decide) positive, equal]
      exact value_lt finite
    have low : -331 ≤ Int.log 10 decimal.value := by
      rw [← Int.zpow_le_iff_le_log (by decide) positive, equal]
      exact le_value zero
    have cross : decimal.digits * 10 ^ decimal.exponent.toNat * x.ratio.2 =
        x.ratio.1 * 10 ^ (-decimal.exponent).toNat := by
      rw [Decimal.value_eq_div, value_eq_div, div_eq_div_iff (by positivity)
        (Nat.cast_ne_zero.mpr (ratio_snd_pos x).ne')] at equal
      exact_mod_cast equal
    -- the number is neither too small nor too large to be rounded
    unfold Decimal.toDouble
    dsimp only
    rw [← height, if_neg, if_neg]
    · simp only [Nat.pow_eq]
      rw [ofRatio_congr x.negative (Nat.pow_pos (by decide)) (ratio_snd_pos x) cross,
        ofRatio_ratio]
    · omega
    · rw [Bool.or_eq_true, decide_eq_true_iff, decide_eq_true_iff]
      omega

/-- What is written of a finite number reads as that number. -/
theorem toDouble_shortest {x : Double} (finite : x.isInfinite = false) :
    x.shortest.toDouble x.negative = x := by
  unfold shortest
  split_ifs with zero
  · have noMagnitude : x.magnitude = 0 := by simpa [isZero] using zero
    exact eq_of_magnitude rfl (by simp [Decimal.toDouble, ofMagnitude, noMagnitude])
  · dsimp only
    split
    · rename_i candidate found
      rw [Decimal.toDouble_congr (Decimal.value_reduce candidate)]
      simpa using List.find?_some found
    · exact toDouble_of_value_eq finite (value_exactDecimal x)

end Double

end RobotRules
