import RobotRules.Json.Basic
import RobotRules.Number.Decimal
import RobotRules.Text.Quoted

/-! Writing JSON in ASCII, one item or member to a line, each level two columns
further in. -/

namespace RobotRules.Json

/-- A code unit as an escape. -/
def unitEscape (unit : Nat) : Text := "\\u" ++ Text.hex 4 unit

/-- One character of a string. -/
def writeCharacter (c : Char) : Text :=
  if c = '"' ∨ c = '\\' then ['\\', c]
  else if c = '\n' then "\\n"
  else if c = '\r' then "\\r"
  else if c = '\t' then "\\t"
  else if c = '\x0c' then "\\f"
  else if c = '\x08' then "\\b"
  else if 32 ≤ c.toNat ∧ c.toNat ≤ 126 then [c]
  else if c.toNat < 0x10000 then unitEscape c.toNat
  else
    let offset := c.toNat - 0x10000
    unitEscape (0xd800 + offset / 0x400) ++ unitEscape (0xdc00 + offset % 0x400)

/-- One code point of a string. -/
def writePoint : Point → Text
  | .char c => writeCharacter c
  | .high offset => unitEscape (0xd800 + offset)
  | .low offset => unitEscape (0xdc00 + offset)

/-- A string. -/
def writeString (points : Points) : Text := ['"'] ++ points.flatMap writePoint ++ ['"']

/-- A value without items. -/
def writeScalar : Json → Text
  | .boolean true => "true"
  | .boolean false => "false"
  | .integer number => Number.writeInteger number
  | .float number =>
    if number.isInfinite then
      if number.negative then "-Infinity" else "Infinity"
    else number.write
  | .nan => "NaN"
  | .string points => writeString points
  | _ => "null"

/-- A line break and the indentation of a level. -/
def newLine (level : Nat) : Text := '\n' :: List.replicate (2 * level) ' '

/-- Parts between two brackets, each on a line of its own. -/
def writeBlock (opening closing : Char) (level : Nat) (parts : List Text) : Text :=
  if parts.isEmpty then [opening, closing]
  else
    [opening] ++ newLine (level + 1) ++
      Text.join (',' :: newLine (level + 1)) parts ++ newLine level ++ [closing]

mutual
/-- A value at a level of indentation. -/
def writeAt (level : Nat) : Json → Text
  | .list items => writeBlock '[' ']' level (writeItems (level + 1) items)
  | .object members =>
    writeBlock '\x7b' '\x7d' level (writeMembers (level + 1) members)
  | scalar => writeScalar scalar

def writeItems (level : Nat) : List Json → List Text
  | [] => []
  | item :: rest => writeAt level item :: writeItems level rest

def writeMembers (level : Nat) : List (Points × Json) → List Text
  | [] => []
  | (name, value) :: rest =>
    (writeString name ++ ": " ++ writeAt level value) :: writeMembers level rest
end

/-- The JSON text of a value. -/
def write (value : Json) : Text := writeAt 0 value

end RobotRules.Json
