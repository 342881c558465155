import RobotRules.Text.Basic

/-! Bytes in base 64: three bytes become four characters, and equals signs fill
up the last four. -/

namespace RobotRules.Text

/-- The digits of base 64. -/
def base64Digits : Text :=
  "ABCDEFGHIJKLMNOPQRSTUVWXYZabcdefghijklmnopqrstuvwxyz0123456789+/"

/-- The digit of a value below 64. -/
def base64Digit (value : Nat) : Char := base64Digits.getD value '='

/-- Bytes in base 64. -/
def base64 : List Nat → Text
  | [] => []
  | [a] => [base64Digit (a / 4), base64Digit (a % 4 * 16), '=', '=']
  | [a, b] =>
    [base64Digit (a / 4), base64Digit (a % 4 * 16 + b / 16),
      base64Digit (b % 16 * 4), '=']
  | a :: b :: c :: rest =>
    base64Digit (a / 4) :: base64Digit (a % 4 * 16 + b / 16) ::
      base64Digit (b % 16 * 4 + c / 64) :: base64Digit (c % 64) :: base64 rest

example : base64 [117, 58, 112] = "dTpw" := by decide
example : base64 [117, 58] = "dTo=" ∧ base64 [255] = "/w==" := by decide

end RobotRules.Text
