import RobotRules.Character.Digits
import RobotRules.Text.Basic

/-! Whole numbers as text. Reading takes the decimal digits of every script;
writing uses the ASCII digits. -/

namespace RobotRules.Number

/-- No integer of more decimal digits than this is read or written. -/
def digitLimit : Nat := 4300

/-- The characters that may stand around a number: white space, but not the
four ASCII separators of files, groups, records and units. -/
def isPadding (c : Char) : Bool :=
  Character.isBlank c && !(28 ≤ c.toNat && c.toNat ≤ 31)

/-- The text of a number without what may stand around it. -/
def unpad (text : Text) : Text :=
  ((text.dropWhile isPadding).reverse.dropWhile isPadding).reverse

/-- The digits of a nonempty row of digits. Between two digits one underscore
may stand. -/
def readDigits? (text : Text) : Option (List Nat) := do
  let groups ← (Text.splitOn '_' text).mapM fun group =>
    if group.isEmpty then none else group.mapM Character.digit?
  return groups.flatten

/-- The number with these decimal digits. -/
def ofDigits (digits : List Nat) : Nat :=
  digits.foldl (fun value digit => 10 * value + digit) 0

/-- The sign in front of a number, and what follows it. -/
def splitSign : Text → Bool × Text
  | '-' :: rest => (true, rest)
  | '+' :: rest => (false, rest)
  | text => (false, text)

/-- The integer that the text spells, if it spells one. -/
def readInteger? (text : Text) : Option Int := do
  let (negative, unsigned) := splitSign (unpad text)
  let digits ← readDigits? unsigned
  if digits.length > digitLimit then none
  else if negative then return -(ofDigits digits : Int)
  else return ofDigits digits

/-- The decimal digits of a natural number. -/
def writeNat (number : Nat) : Text := Nat.toDigits 10 number

/-- The decimal digits of an integer, with a minus sign if it has one. -/
def writeInteger : Int → Text
  | .ofNat number => writeNat number
  | .negSucc number => '-' :: writeNat (number + 1)

/-- Whether the integer is short enough to be written. -/
def isWritable (number : Int) : Bool :=
  (writeNat number.natAbs).length ≤ digitLimit

example : readInteger? " +1_000\n" = some 1000 := by decide
example : readInteger? "1__0" = none ∧ readInteger? "-" = none := by decide
example : readInteger? "٣٤" = some 34 := by decide +kernel
example : writeInteger (-120) = "-120" := by decide

end RobotRules.Number
