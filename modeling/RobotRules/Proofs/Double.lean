import Mathlib.Algebra.Order.Ring.Nat
import Mathlib.Order.Monotone.Basic
import RobotRules.Number.Double

/-! Floating-point numbers that are integers. Magnitudes are counted in units of the
smallest subnormal. The higher magnitude has more units, so two numbers with the same
integer value are equal, up to the sign of zero. -/

namespace RobotRules.Double

/-- How many smallest subnormals a magnitude is worth. -/
def units (magnitude : Nat) : Nat :=
  if magnitude < 2 ^ 52 then magnitude
  else (magnitude % 2 ^ 52 + 2 ^ 52) * 2 ^ (magnitude / 2 ^ 52 - 1)

/-- A normal number is worth at least the power of two of its exponent field, and less
than the next one. -/
theorem units_bounds {magnitude : Nat} (normal : 2 ^ 52 ≤ magnitude) :
    2 ^ 52 * 2 ^ (magnitude / 2 ^ 52 - 1) ≤ units magnitude ∧
      units magnitude < 2 ^ 52 * 2 ^ (magnitude / 2 ^ 52) := by
  have field : magnitude / 2 ^ 52 = magnitude / 2 ^ 52 - 1 + 1 := by omega
  have positive := Nat.two_pow_pos (magnitude / 2 ^ 52 - 1)
  unfold units
  rw [if_neg (by omega)]
  constructor
  · exact Nat.mul_le_mul_right _ (by omega)
  · calc (magnitude % 2 ^ 52 + 2 ^ 52) * 2 ^ (magnitude / 2 ^ 52 - 1)
      _ < (2 ^ 52 * 2) * 2 ^ (magnitude / 2 ^ 52 - 1) :=
        Nat.mul_lt_mul_of_pos_right (by omega) positive
      _ = 2 ^ 52 * 2 ^ (magnitude / 2 ^ 52 - 1 + 1) := by
        rw [Nat.mul_assoc, Nat.mul_comm 2 (2 ^ (magnitude / 2 ^ 52 - 1)), ← Nat.pow_succ]
      _ = 2 ^ 52 * 2 ^ (magnitude / 2 ^ 52) := by rw [← field]

theorem units_of_subnormal {magnitude : Nat} (subnormal : magnitude < 2 ^ 52) :
    units magnitude = magnitude :=
  if_pos subnormal

theorem units_strictMono : StrictMono units := by
  intro low high less
  by_cases subnormal : high < 2 ^ 52
  · rwa [units_of_subnormal subnormal, units_of_subnormal (less.trans subnormal)]
  have bounds := units_bounds (Nat.le_of_not_lt subnormal)
  by_cases lowSubnormal : low < 2 ^ 52
  · have positive := Nat.two_pow_pos (high / 2 ^ 52 - 1)
    calc units low = low := units_of_subnormal lowSubnormal
      _ < 2 ^ 52 := lowSubnormal
      _ ≤ 2 ^ 52 * 2 ^ (high / 2 ^ 52 - 1) := Nat.le_mul_of_pos_right _ positive
      _ ≤ units high := bounds.1
  have lowBounds := units_bounds (Nat.le_of_not_lt lowSubnormal)
  rcases Nat.lt_or_ge (low / 2 ^ 52) (high / 2 ^ 52) with fields | fields
  · have power : 2 ^ (low / 2 ^ 52) ≤ 2 ^ (high / 2 ^ 52 - 1) :=
      Nat.pow_le_pow_right (by omega) (by omega)
    calc units low < 2 ^ 52 * 2 ^ (low / 2 ^ 52) := lowBounds.2
      _ ≤ 2 ^ 52 * 2 ^ (high / 2 ^ 52 - 1) := Nat.mul_le_mul_left _ power
      _ ≤ units high := bounds.1
  · have same : low / 2 ^ 52 = high / 2 ^ 52 := by omega
    unfold units
    rw [if_neg lowSubnormal, if_neg subnormal, same]
    exact Nat.mul_lt_mul_of_pos_right (by omega) (Nat.two_pow_pos _)

theorem significand_eq (x : Double) : x.significand =
    if x.magnitude < 2 ^ 52 then x.magnitude else x.magnitude % 2 ^ 52 + 2 ^ 52 := rfl

theorem exponent_eq (x : Double) : x.exponent =
    if x.magnitude < 2 ^ 52 then (-1074 : Int) else (x.magnitude / 2 ^ 52 : Nat) - 1075 := rfl

theorem ratio_eq (x : Double) : x.ratio =
    (x.significand * 2 ^ x.exponent.toNat, 2 ^ (-x.exponent).toNat) := rfl

theorem units_eq (x : Double) :
    units x.magnitude = x.significand * 2 ^ (x.exponent + 1074).toNat := by
  rw [significand_eq, exponent_eq]
  unfold units
  by_cases subnormal : x.magnitude < 2 ^ 52
  · simp only [if_pos subnormal]
    exact (Nat.mul_one _).symm
  · simp only [if_neg subnormal]
    congr 2
    omega

theorem exponent_ge (x : Double) : -1074 ≤ x.exponent := by
  rw [exponent_eq]
  split_ifs <;> omega

/-- The absolute value as a ratio and in units of the smallest subnormal. -/
theorem ratio_mul_eq_units (x : Double) :
    x.ratio.1 * 2 ^ 1074 = units x.magnitude * x.ratio.2 := by
  have bound := exponent_ge x
  have powers : 2 ^ x.exponent.toNat * 2 ^ 1074 =
      2 ^ (x.exponent + 1074).toNat * 2 ^ (-x.exponent).toNat := by
    rw [← Nat.pow_add, ← Nat.pow_add]
    congr 1
    omega
  rw [units_eq, ratio_eq]
  dsimp only
  rw [Nat.mul_assoc, powers, Nat.mul_assoc]

theorem ratio_snd_pos (x : Double) : 0 < x.ratio.2 := Nat.two_pow_pos _

/-- A number that is an integer, in units of the smallest subnormal. -/
theorem units_of_toInt? {x : Double} {number : Int} (whole : x.toInt? = some number) :
    ∃ absolute, units x.magnitude = absolute * 2 ^ 1074 ∧
      number = if x.negative then -(absolute : Int) else absolute := by
  unfold toInt? at whole
  dsimp only at whole
  by_cases excluded : (x.isInfinite || x.ratio.1 % x.ratio.2 != 0) = true
  · rw [if_pos excluded] at whole
    cases whole
  · rw [if_neg excluded] at whole
    simp only [Bool.or_eq_true, not_or, bne_iff_ne, Decidable.not_not] at excluded
    have quotient := Nat.div_mul_cancel (Nat.dvd_of_mod_eq_zero excluded.2)
    have value := ratio_mul_eq_units x
    rw [← quotient, Nat.mul_right_comm] at value
    refine ⟨x.ratio.1 / x.ratio.2, ?_, (Option.some.inj whole).symm⟩
    exact (Nat.mul_right_cancel (ratio_snd_pos x) value).symm

/-- Zero has the value zero, whatever its sign. -/
theorem toInt?_of_isZero {x : Double} (zero : x.isZero = true) : x.toInt? = some 0 := by
  have magnitude : x.magnitude = 0 := by simpa [isZero] using zero
  have numerator : x.ratio.1 = 0 := by
    simp [ratio_eq, significand_eq, magnitude]
  have finite : x.isInfinite = false := by
    simp [isInfinite, magnitude, infinite]
  unfold toInt?
  dsimp only
  rw [numerator, finite]
  simp

theorem eq_of_magnitude {left right : Double} (signs : left.negative = right.negative)
    (magnitudes : left.magnitude = right.magnitude) : left = right := by
  rcases left with ⟨_, _, _⟩
  rcases right with ⟨_, _, _⟩
  obtain rfl : _ = _ := signs
  obtain rfl : _ = _ := magnitudes
  rfl

/-- Two numbers are the same if they have the same integer value. -/
theorem same_of_toInt? {left right : Double} {number : Int}
    (whole : left.toInt? = some number) (whole' : right.toInt? = some number) :
    left.same right = true := by
  rcases units_of_toInt? whole with ⟨absolute, worth, value⟩
  rcases units_of_toInt? whole' with ⟨absolute', worth', value'⟩
  have sameAbsolute : absolute = absolute' := by
    split_ifs at value value' <;> omega
  have magnitudes : left.magnitude = right.magnitude := by
    apply units_strictMono.injective
    rw [worth, worth', sameAbsolute]
  unfold same
  rw [Bool.or_eq_true, Bool.and_eq_true, beq_iff_eq]
  by_cases signs : left.negative = right.negative
  · exact .inl (eq_of_magnitude signs magnitudes)
  · right
    have zero : absolute = 0 := by
      clear worth worth'
      cases negative : left.negative <;> cases negative' : right.negative <;>
        simp only [negative, negative', if_true, if_false, Bool.false_eq_true,
          not_true_eq_false] at signs value value' <;>
        omega
    have noUnits : units left.magnitude = units 0 := by
      rw [worth, zero, Nat.zero_mul]
      rfl
    have noMagnitude := units_strictMono.injective noUnits
    simp [isZero, ← magnitudes, noMagnitude]

/-- The integer value does not tell apart numbers that are the same. -/
theorem toInt?_eq_of_same {left right : Double} (same : left.same right = true) :
    left.toInt? = right.toInt? := by
  unfold Double.same at same
  rw [Bool.or_eq_true, Bool.and_eq_true, beq_iff_eq] at same
  rcases same with equal | ⟨zero, zero'⟩
  · rw [equal]
  · rw [toInt?_of_isZero zero, toInt?_of_isZero zero']

/-- Numbers without an integer value are the same only if they are equal. -/
theorem same_iff_eq_of_toInt? {left right : Double} (fractional : left.toInt? = none) :
    left.same right = true ↔ left = right := by
  unfold Double.same
  rw [Bool.or_eq_true, Bool.and_eq_true, beq_iff_eq]
  constructor
  · rintro (equal | ⟨zero, _⟩)
    · exact equal
    · rw [toInt?_of_isZero zero] at fractional
      cases fractional
  · exact .inl

end RobotRules.Double
