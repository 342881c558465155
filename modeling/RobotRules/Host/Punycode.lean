import RobotRules.Text.Basic

/-! Labels in ASCII. The ASCII characters of a label are kept; where the others
are put in, in the order of their code points, is told by numbers behind the last
hyphen. The places of a number have weights that adapt to the numbers before it,
so that a number shows by itself where it ends. -/

namespace RobotRules.Host.Punycode

/-- How many digits there are. -/
def base : Nat := 36

/-- The digit of a value: a letter, or from 26 on a decimal digit. -/
def digit (value : Nat) : Char :=
  if value < 26 then Char.ofNat ('a'.toNat + value)
  else Char.ofNat ('0'.toNat + (value - 26))

/-- The value of a digit. -/
def value? (c : Char) : Option Nat :=
  if c.isLower then some (c.toNat - 'a'.toNat)
  else if c.isDigit then some (c.toNat - '0'.toNat + 26)
  else none

/-- A digit below the threshold of its place ends a number. -/
def threshold (bias place : Nat) : Nat := max 1 (min 26 (base * (place + 1) - bias))

theorem one_le_threshold (bias place : Nat) : 1 ≤ threshold bias place :=
  Nat.le_max_left ..

/-- The digits of a number from a place on, the lowest place first. -/
def digitsFrom (bias place number : Nat) : Text :=
  let least := threshold bias place
  if number < least then [digit number]
  else
    digit (least + (number - least) % (base - least)) ::
      digitsFrom bias (place + 1) ((number - least) / (base - least))
termination_by number
decreasing_by
  have := one_le_threshold bias place
  exact Nat.lt_of_le_of_lt (Nat.div_le_self ..) (by omega)

/-- A number divided by 35 until it is at most 455, and how often it was. -/
def shrink (number : Nat) : Nat × Nat :=
  if 455 < number then
    let (rest, times) := shrink (number / 35)
    (rest, times + 1)
  else (number, 0)

/-- The bias behind a number, the first one or a later one, that put in the last
of `count` characters. -/
def adapt (isFirst : Bool) (number count : Nat) : Nat :=
  let number := if isFirst then number / 700 else number / 2
  let (rest, times) := shrink (number + number / count)
  base * times + base * rest / (rest + 38)

def firstBias : Nat := 72

/-- The least code point that is put in. -/
def firstCode : Nat := 128

def isBasic (c : Char) : Bool := c.toNat < firstCode

/-! Writing. -/

/-- What has been written of a label. -/
structure Written where
  digits : Text
  /-- The number that the next digits will spell. -/
  number : Nat
  bias : Nat
  /-- How many characters of the label are known from what was written. -/
  count : Nat
  isFirst : Bool

/-- Passes a character of the label while those with a code point are put in. -/
def Written.pass (code : Nat) (written : Written) (c : Char) : Written :=
  if c.toNat < code then { written with number := written.number + 1 }
  else if c.toNat = code then
    { digits := written.digits ++ digitsFrom written.bias 0 written.number
      number := 0
      bias := adapt written.isFirst written.number (written.count + 1)
      count := written.count + 1
      isFirst := false }
  else written

/-- Puts in the characters of a label with the given code points, the next of
which could be `least`. -/
def Written.putIn (label : Text) (least : Nat) : List Nat → Written → Written
  | [], written => written
  | code :: codes, written =>
    let skipped := (code - least) * (written.count + 1)
    let ready := { written with number := written.number + skipped }
    let passed := label.foldl (Written.pass code) ready
    putIn label (code + 1) codes { passed with number := passed.number + 1 }

/-- The code points in a label that are not basic, each once, in order. -/
def codes (label : Text) : List Nat :=
  ((label.filter (!isBasic ·)).map Char.toNat).eraseDups.mergeSort

/-- The label in ASCII. -/
def encode (label : Text) : Text :=
  let kept := label.filter isBasic
  let start : Written := ⟨[], 0, firstBias, kept.length, true⟩
  let written := start.putIn label firstCode (codes label)
  if kept.isEmpty then written.digits else kept ++ '-' :: written.digits

/-! Reading. -/

/-- What has been read of a label. -/
structure Reading where
  label : Text
  /-- The code point of the last character that was put in. -/
  code : Nat
  /-- The place behind it. -/
  behind : Nat
  bias : Nat
  isFirst : Bool
  /-- The number of which some digits were read, the weight of its next digit, and
  the place of that. -/
  number : Nat
  weight : Nat
  place : Nat

/-- Puts in the character that a number tells of. -/
def Reading.putIn? (number : Nat) (reading : Reading) : Option Reading :=
  let count := reading.label.length + 1
  let code := reading.code + (reading.behind + number) / count
  let index := (reading.behind + number) % count
  if code.isValidChar then
    some
      { label := reading.label.take index ++ Char.ofNat code :: reading.label.drop index
        code := code
        behind := index + 1
        bias := adapt reading.isFirst number count
        isFirst := false
        number := 0
        weight := 1
        place := 0 }
  else none

/-- Reads a digit. -/
def Reading.readDigit? (reading : Reading) (c : Char) : Option Reading := do
  let value ← value? c
  let number := reading.number + value * reading.weight
  let least := threshold reading.bias reading.place
  if value < least then reading.putIn? number
  else
    return { reading with
      number := number
      weight := reading.weight * (base - least)
      place := reading.place + 1 }

/-- The label that is written in ASCII. Its last number has to be complete. -/
def decode? (text : Text) : Option Text :=
  let digits := (text.reverse.takeWhile (· != '-')).reverse
  let kept := text.take (text.length - digits.length - 1)
  let start : Reading := ⟨kept, firstCode, 0, firstBias, true, 0, 1, 0⟩
  match digits.foldlM Reading.readDigit? start with
  | some reading => if reading.place = 0 then some reading.label else none
  | none => none

example : encode "bücher" = "bcher-kva" := by cbv
example : decode? "bcher-kva" = some "bücher" := by cbv
example : decode? "bcher-kv" = none ∧ decode? "bcher-k_a" = none := by cbv

end RobotRules.Host.Punycode
