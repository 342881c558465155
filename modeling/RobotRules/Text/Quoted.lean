import RobotRules.Character.Visible
import RobotRules.Text.Basic

/-! Quoted texts, as values are shown in messages and reports. -/

namespace RobotRules.Text

/-- The hexadecimal digits of a number, filled up with zeros to a width. -/
def hex (width number : Nat) : Text :=
  let digits := Nat.toDigits 16 number
  List.replicate (width - digits.length) '0' ++ digits

/-- One character between quotes of the given kind. -/
def quoteCharacter (quote c : Char) : Text :=
  if c = quote ∨ c = '\\' then ['\\', c]
  else if c = '\t' then "\\t"
  else if c = '\n' then "\\n"
  else if c = '\r' then "\\r"
  else if Character.isVisible c then [c]
  else if c.toNat < 0x100 then "\\x" ++ hex 2 c.toNat
  else if c.toNat < 0x10000 then "\\u" ++ hex 4 c.toNat
  else "\\U" ++ hex 8 c.toNat

/-- The text between single quotes; between double ones if it holds single
quotes but no double ones. -/
def quoted (text : Text) : Text :=
  let quote := if text.contains '\'' && !text.contains '"' then '"' else '\''
  [quote] ++ text.flatMap (quoteCharacter quote) ++ [quote]

example : quoted "it's" = "\"it's\"" := by decide
example : quoted "a\nb\\" = "'a\\nb\\\\'" := by decide
example : quoted "\u200b" = "'\\u200b'" := by decide +kernel

end RobotRules.Text
