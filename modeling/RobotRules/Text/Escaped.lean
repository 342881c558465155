import RobotRules.Character.Digits
import RobotRules.Text.Quoted
import RobotRules.Text.Utf8

/-! Texts in which a byte may be written as a percent sign and two hexadecimal
digits. -/

namespace RobotRules.Text

/-- The byte that two hexadecimal digits spell. -/
def hexByte? (high low : Char) : Option Nat := do
  return (← Character.hexDigit? high) * 16 + (← Character.hexDigit? low)

/-- The bytes of a text in which a percent sign and two digits stand for a
byte. -/
def escapedBytes : Text → List Nat
  | [] => []
  | '%' :: high :: low :: rest =>
    match hexByte? high low with
    | some byte => byte :: escapedBytes rest
    | none => bytesOfChar '%' ++ escapedBytes (high :: low :: rest)
  | c :: rest => bytesOfChar c ++ escapedBytes rest

/-- The text that is meant by one with percent signs. -/
def unescape (text : Text) : Text := ofBytes (escapedBytes text)

/-- A byte as a percent sign and two digits. -/
def escapeByte (byte : Nat) : Text := '%' :: (hex 2 byte).map Char.toUpper

/-- The text with the bytes of all characters escaped that are not plain. -/
def escape (isPlain : Char → Bool) (text : Text) : Text :=
  text.flatMap fun c => if isPlain c then [c] else (bytesOfChar c).flatMap escapeByte

/-- The characters that never need to be escaped. -/
def isUnreserved (c : Char) : Bool :=
  c.isAlphanum || c == '-' || c == '.' || c == '_' || c == '~'

example : escape isUnreserved "a b/é" = "a%20b%2F%C3%A9" := by decide
example : unescape "a%20b%2f%C3%A9%zz" = "a b/é%zz" := by decide

end RobotRules.Text
