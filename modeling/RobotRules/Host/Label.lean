import RobotRules.Character.Direction
import RobotRules.Host.Context
import RobotRules.Host.Punycode
import RobotRules.Host.Repertoire
import RobotRules.Text.Composed

/-! Labels, the parts of a host name. A label that is not ASCII is sent in ASCII,
with a mark in front that says so. -/

namespace RobotRules.Host

open Character

/-- No hyphen stands at an end of a label, and no two at its third place. -/
def hasHyphensInPlace (label : Text) : Bool :=
  label.head? != some '-' && label.getLast? != some '-' &&
    (label.drop 2).take 2 != "--".toList

/-- Whether a direction makes a label go from right to left. -/
def isLeftward (direction : Direction) : Bool :=
  direction == .rightToLeft || direction == .arabicLetter || direction == .arabicNumber

/-- Characters from right to left need a label that goes that way: it begins with
a letter that does, has no letters from left to right and not both kinds of
digits, and ends with a letter or a digit, apart from marks. -/
def hasOneDirection (label : Text) : Bool :=
  let directions := label.map direction
  if !directions.any isLeftward then true
  else
    let isStart (direction : Direction) : Bool :=
      direction == .rightToLeft || direction == .arabicLetter
    let isEnd (direction : Direction) : Bool :=
      isLeftward direction || direction == .number
    (directions.head?.map isStart).getD false &&
      !directions.contains .leftToRight &&
      !(directions.contains .number && directions.contains .arabicNumber) &&
      ((directions.reverse.dropWhile (· == .mark)).head?.map isEnd).getD false

/-- The first character of a label is no mark. -/
def beginsWell (label : Text) : Bool := (label.head?.map (!isMark ·)).getD false

/-- The longest label that is looked at. -/
def readableLength : Nat := 254

/-- Whether a text is a label. -/
def isLabel (label : Text) : Bool :=
  label.length ≤ readableLength && label.all isPermitted && beginsWell label &&
    hasHyphensInPlace label && Text.isComposed label && areInPlace [] label &&
    hasOneDirection label

/-- The longest label that is sent. -/
def longestLabel : Nat := 63

/-- What stands in front of a label that was put into ASCII. -/
def asciiMark : Text := "xn--"

/-- The label that a label in ASCII stands for. -/
def meaning? (label : Text) : Option Text :=
  match Text.after? asciiMark label with
  | none => some label
  | some coded =>
    if coded.isEmpty || coded.getLast? == some '-' then none else Punycode.decode? coded

/-- The label in ASCII, unless it is too long to be looked at or means no label. -/
def asciiLabel? (label : Text) : Option Text := do
  if label.length > readableLength then failure
  let isAscii := label.all Punycode.isBasic
  let meaning ← if isAscii then meaning? label else some label
  if !isLabel meaning then failure
  return if isAscii then label else asciiMark ++ Punycode.encode label

/-- The label as it is sent. -/
def sentLabel? (label : Text) : Option Text := do
  let sent ← asciiLabel? label
  if sent.length ≤ longestLabel then some sent else none

/-- The dots between labels. -/
def isDot (c : Char) : Bool := c == '.' || c == '\u3002' || c == '\uff0e' || c == '\uff61'

/-- The longest name that is sent; a dot at its end does not count. -/
def longestName : Nat := 253

/-- A name as it is sent. One dot may stand at its end. -/
def sentName? (name : Text) : Option Text := do
  let labels := Text.splitOn '.' (name.map fun c => if isDot c then '.' else c)
  let (labels, ending) : List Text × Text := match labels.getLast? with
    | some [] => (labels.dropLast, ['.'])
    | _ => (labels, [])
  if labels.isEmpty then failure
  let sent := Text.join ['.'] (← labels.mapM sentLabel?)
  if sent.length ≤ longestName then some (sent ++ ending) else none

example : isLabel "aü" = true ∧ isLabel "_" = false ∧ isLabel "-a" = false := by
  decide +kernel

/-- Behind a first dot there is an empty label. -/
example : sentName? ".é" = none := by decide +kernel

end RobotRules.Host
