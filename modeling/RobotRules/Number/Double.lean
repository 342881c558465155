/-! Binary floating-point numbers of 64 bits, without the NaNs. The magnitudes
are numbered in increasing order: 0 is zero, 1 the smallest subnormal, and so
on up to infinity. So the magnitude is the bit pattern without the sign, and
comparing magnitudes compares values. -/

namespace RobotRules

/-- The number of the infinite magnitude. -/
def Double.infinite : Nat := 2047 * Nat.pow 2 52

/-- A 64-bit floating-point number other than a NaN. -/
structure Double where
  negative : Bool
  magnitude : Nat
  bounded : magnitude ≤ Double.infinite

namespace Double

instance : DecidableEq Double := fun left right =>
  if equal : left.negative = right.negative ∧ left.magnitude = right.magnitude then
    .isTrue (by cases left; cases right; simp_all)
  else .isFalse (by rintro rfl; exact equal ⟨rfl, rfl⟩)

/-- The number of the given magnitude, or infinity if there is none so high. -/
def ofMagnitude (negative : Bool) (magnitude : Nat) : Double :=
  ⟨negative, min magnitude infinite, Nat.min_le_right _ _⟩

def isInfinite (x : Double) : Bool := x.magnitude == infinite

def isZero (x : Double) : Bool := x.magnitude == 0

/-- The absolute value of a finite number is `significand * 2 ^ exponent`. -/
def significand (x : Double) : Nat :=
  if x.magnitude < Nat.pow 2 52 then x.magnitude
  else x.magnitude % Nat.pow 2 52 + Nat.pow 2 52

/-- The absolute value of a finite number is `significand * 2 ^ exponent`. -/
def exponent (x : Double) : Int :=
  if x.magnitude < Nat.pow 2 52 then -1074
  else (x.magnitude / Nat.pow 2 52 : Nat) - 1075

/-- The absolute value of a finite number as numerator and denominator. -/
def ratio (x : Double) : Nat × Nat :=
  (x.significand * Nat.pow 2 x.exponent.toNat, Nat.pow 2 (-x.exponent).toNat)

/-- The quotient rounded to the nearest natural number, a half to the even
one. -/
def roundedQuotient (numerator denominator : Nat) : Nat :=
  let quotient := numerator / denominator
  let twice := 2 * (numerator % denominator)
  if twice < denominator then quotient
  else if denominator < twice then quotient + 1
  else quotient + quotient % 2

/-- The largest power of two that does not exceed a positive ratio. -/
def floorLog2 (numerator denominator : Nat) : Int :=
  let estimate : Int := numerator.log2 - denominator.log2
  if numerator * Nat.pow 2 (-estimate).toNat < denominator * Nat.pow 2 estimate.toNat then
    estimate - 1
  else estimate

/-- The number nearest to a ratio. Of two that are equally near, the one with
the even magnitude is taken. Its last place is worth two to the power `place`,
and counting places from the smallest subnormal gives the magnitude. -/
def ofRatio (negative : Bool) (numerator denominator : Nat) : Double :=
  if numerator = 0 then ofMagnitude negative 0
  else
    let place := max (floorLog2 numerator denominator - 52) (-1074)
    let places := roundedQuotient (numerator * Nat.pow 2 (-place).toNat)
      (denominator * Nat.pow 2 place.toNat)
    ofMagnitude negative ((place + 1074).toNat * Nat.pow 2 52 + places)

/-- The nearest number to an integer, if that is not infinite. -/
def ofInt? (number : Int) : Option Double :=
  let nearest := ofRatio (number < 0) number.natAbs 1
  if nearest.isInfinite then none else some nearest

/-- The integer that the number is, if it is one. -/
def toInt? (x : Double) : Option Int :=
  let (numerator, denominator) := x.ratio
  if x.isInfinite || numerator % denominator != 0 then none
  else
    let whole : Int := (numerator / denominator : Nat)
    some (if x.negative then -whole else whole)

/-- The nearest integer to a finite number, a half to the even one. -/
def round (x : Double) : Int :=
  let (numerator, denominator) := x.ratio
  let whole : Int := roundedQuotient numerator denominator
  if x.negative then -whole else whole

/-- The rounded product. Neither factor is a zero if the other is infinite. -/
def mul (left right : Double) : Double :=
  let negative := left.negative != right.negative
  if left.isInfinite || right.isInfinite then ofMagnitude negative infinite
  else
    ofRatio negative (left.ratio.1 * right.ratio.1) (left.ratio.2 * right.ratio.2)

/-- The rounded quotient by a finite number other than zero. -/
def div (left right : Double) : Double :=
  let negative := left.negative != right.negative
  if left.isInfinite then ofMagnitude negative infinite
  else
    ofRatio negative (left.ratio.1 * right.ratio.2) (left.ratio.2 * right.ratio.1)

/-- A time in milliseconds, in seconds. -/
def toSeconds (milliseconds : Double) : Double :=
  milliseconds.div (ofRatio false 1000 1)

/-- Whether the system can wait for a time in seconds, which is not negative. It counts
nanoseconds in 64 bits, one of which is for the sign. -/
def isWaitable (seconds : Double) : Bool :=
  let nanoseconds := seconds.mul (ofRatio false 1000000000 1)
  !nanoseconds.isInfinite && nanoseconds.ratio.1 < Nat.pow 2 63 * nanoseconds.ratio.2

/-- A time in seconds, in whole microseconds, if it is finite. -/
def toMicroseconds? (seconds : Double) : Option Int :=
  let product := seconds.mul (ofRatio false 1000000 1)
  if product.isInfinite then none else some product.round

/-- The two zeros are equal; all else is equal to itself alone. -/
def same (left right : Double) : Bool :=
  left == right || left.isZero && right.isZero

/-- The number as a signed numerator over a positive denominator. -/
def signedRatio (x : Double) : Int × Nat :=
  let (numerator, denominator) := x.ratio
  (if x.negative then -(numerator : Int) else numerator, denominator)

/-- One is the double with exponent field 1023. -/
example : (ofRatio false 1 1).magnitude = 1023 * 2 ^ 52 := by decide

/-- The nearest number to a tenth is a little more than a tenth. -/
example : (ofRatio false 1 10).magnitude = 0x3fb999999999999a := by decide

end Double

end RobotRules
