import RobotRules.Character.Case
import RobotRules.Text.Basic

/-! Case of whole texts. -/

namespace RobotRules.Text

open Character

/-- Whether the next character that is not passed over has case. -/
def meetsCased (text : Text) : Bool :=
  match text.dropWhile isCaseIgnorable with
  | [] => false
  | c :: _ => isCased c

/-- The lower case of one character between the reversed text before it and
the text after it. A capital sigma at the end of a word takes its final
form. -/
def lowerBetween (before : Text) (c : Char) (after : Text) : Text :=
  if c = 'İ' then ['i', '\u0307']
  else if c = 'Σ' then
    if meetsCased before && !meetsCased after then ['ς'] else ['σ']
  else [Character.lower c]

/-- The lower case of a text that stands behind the reversed text `before`. -/
def lowerFrom (before : Text) : Text → Text
  | [] => []
  | c :: rest => lowerBetween before c rest ++ lowerFrom (c :: before) rest

/-- The lower case of a text. -/
def lower (text : Text) : Text := lowerFrom [] text

/-- The upper case of a text. -/
def upper (text : Text) : Text := text.flatMap Character.upper

/-- Trimmed and in lower case: the form in which patterns and utterances are
compared. -/
def normalize (text : Text) : Text := trim (lower text)

example : lower "Go HOME" = "go home" := by decide
example : lower "ΟΔΟΣ ΟΣΑ" = "οδος οσα" := by decide +kernel
example : upper "straße" = "STRASSE" := by decide +kernel

end RobotRules.Text
