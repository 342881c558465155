import RobotRules.Number.Double
import RobotRules.Number.Integer

/-! Decimal text of floating-point numbers. A number is written with the fewest
digits that read back as the same number; of those, with the ones nearest to
it. -/

namespace RobotRules

/-- The number `digits * 10 ^ exponent`. -/
structure Decimal where
  digits : Nat
  exponent : Int
deriving DecidableEq, Repr

namespace Decimal

/-- The nearest floating-point number. A decimal whose digits begin far above
or far below the finite range is not worked out. -/
def toDouble (negative : Bool) (decimal : Decimal) : Double :=
  let height := decimal.exponent + (Number.writeNat decimal.digits).length
  if decimal.digits = 0 || height < -330 then .ofMagnitude negative 0
  else if 310 < height then .ofMagnitude negative Double.infinite
  else
    .ofRatio negative (decimal.digits * Nat.pow 10 decimal.exponent.toNat)
      (Nat.pow 10 (-decimal.exponent).toNat)

/-- The same number without zeros at the end of its digits; at most `steps` of
them are taken off. -/
def reduceIn : Nat → Decimal → Decimal
  | 0, decimal => decimal
  | steps + 1, decimal =>
    if decimal.digits % 10 = 0 ∧ decimal.digits ≠ 0 then
      reduceIn steps ⟨decimal.digits / 10, decimal.exponent + 1⟩
    else decimal

/-- The same number without zeros at the end of its digits. -/
def reduce (decimal : Decimal) : Decimal := reduceIn decimal.digits.log2 decimal

end Decimal

namespace Double

/-- The exact decimal expansion of a finite number. -/
def exactDecimal (x : Double) : Decimal :=
  if 0 ≤ x.exponent then ⟨x.significand * Nat.pow 2 x.exponent.toNat, 0⟩
  else ⟨x.significand * Nat.pow 5 (-x.exponent).toNat, x.exponent⟩

/-- The largest power of ten that does not exceed a positive ratio. The
estimate from the binary logarithm is one off at most. -/
def floorLog10 (numerator denominator : Nat) : Int :=
  let reaches (power : Int) : Bool :=
    denominator * Nat.pow 10 power.toNat ≤ numerator * Nat.pow 10 (-power).toNat
  let estimate := (floorLog2 numerator denominator * 30103).fdiv 100000
  if reaches (estimate + 1) then estimate + 1
  else if reaches estimate then estimate
  else estimate - 1

/-- The two decimals with `count` digits next to a positive finite number, the
nearer one first and of two equally near ones the even one. -/
def neighbours (x : Double) (count : Nat) : List Decimal :=
  let (numerator, denominator) := x.ratio
  let exponent := floorLog10 numerator denominator - (count - 1 : Nat)
  let scaled := numerator * Nat.pow 10 (-exponent).toNat
  let unit := denominator * Nat.pow 10 exponent.toNat
  let below : Decimal := ⟨scaled / unit, exponent⟩
  let above : Decimal := ⟨scaled / unit + 1, exponent⟩
  if roundedQuotient scaled unit = below.digits then [below, above]
  else [above, below]

/-- A decimal with the fewest digits that reads back as the finite number `x`.
Seventeen digits suffice. -/
def shortest (x : Double) : Decimal :=
  if x.isZero then ⟨0, 0⟩
  else
    let candidates := (List.range 17).flatMap fun index => x.neighbours (index + 1)
    match candidates.find? fun candidate => candidate.toDouble x.negative == x with
    | some candidate => candidate.reduce
    | none => x.exactDecimal

/-! The layout of the digits: a number with its first digit at a place from
the ten-thousandths up to the sixteenth before the point is written in full,
any other with a power of ten. -/

/-- The lowest place of a first digit that is written in full. -/
def lowestPlace : Int := -4

/-- The highest place of a first digit that is written in full. -/
def highestPlace : Int := 15

/-- The power of ten behind the digits: a sign and two digits at least. -/
def writePower (power : Int) : Text :=
  let digits := Number.writeNat power.natAbs
  'e' :: (if power < 0 then '-' else '+') ::
    (if digits.length < 2 then '0' :: digits else digits)

/-- The text of a decimal without its sign. -/
def writeDecimal (decimal : Decimal) : Text :=
  let digits := Number.writeNat decimal.digits
  let place : Int := decimal.exponent + digits.length - 1
  if lowestPlace ≤ place ∧ place ≤ highestPlace then
    if place < 0 then
      "0." ++ List.replicate (-place - 1).toNat '0' ++ digits
    else
      let whole := (place + 1).toNat
      if digits.length ≤ whole then
        digits ++ List.replicate (whole - digits.length) '0' ++ ".0"
      else digits.take whole ++ "." ++ digits.drop whole
  else
    match digits with
    | [first] => first :: writePower place
    | first :: others => first :: '.' :: others ++ writePower place
    | [] => []

/-- The text of a number; it reads back as that number. -/
def write (x : Double) : Text :=
  let unsigned : Text := if x.isInfinite then "inf" else writeDecimal x.shortest
  if x.negative then '-' :: unsigned else unsigned

end Double

/-! Reading. -/

/-- What the text of a number with a fraction can spell. -/
inductive Reading where
  | number (value : Double)
  | notANumber

namespace Reading

/-- What stands before and after the first character of the kind. -/
def cut (isMark : Char → Bool) (text : Text) : Text × Option Text :=
  match text.dropWhile (!isMark ·) with
  | [] => (text, none)
  | _ :: rest => (text.takeWhile (!isMark ·), some rest)

/-- Digits that may be missing altogether. -/
def optionalDigits? (text : Text) : Option (List Nat) :=
  if text.isEmpty then some [] else Number.readDigits? text

/-- The power of ten that is written behind the digits. -/
def power? : Option Text → Option Int
  | none => some 0
  | some text => do
    let (negative, unsigned) := Number.splitSign text
    let value := Number.ofDigits (← Number.readDigits? unsigned)
    return if negative then -(value : Int) else value

/-- Digits with at most one point and at most one power of ten. -/
def decimal? (text : Text) : Option Decimal := do
  let (mantissa, powerText) := cut (fun c => c == 'e' || c == 'E') text
  let (wholeText, fractionText) := cut (· == '.') mantissa
  let whole ← optionalDigits? wholeText
  let fraction ← optionalDigits? (fractionText.getD [])
  if whole.isEmpty && fraction.isEmpty then none
  let power ← power? powerText
  return ⟨Number.ofDigits (whole ++ fraction), power - fraction.length⟩

/-- The number that the text spells, if it spells one. -/
def ofText? (text : Text) : Option Reading :=
  let (negative, unsigned) := Number.splitSign (Number.unpad text)
  let word : Text := unsigned.map Char.toLower
  if word = "inf" || word = "infinity" then
    some (.number (.ofMagnitude negative Double.infinite))
  else if word = "nan" then some .notANumber
  else (decimal? unsigned).map fun decimal => .number (decimal.toDouble negative)

end Reading

namespace Double

example : write (.ofRatio false 1 10) = "0.1" := by decide +kernel
example : write (.ofRatio true (10 ^ 22) 1) = "-1e+22" := by decide +kernel
example : write (.ofMagnitude false 1) = "5e-324" := by decide +kernel

end Double

end RobotRules
