import RobotRules.Character.Composition
import RobotRules.Text.Basic

/-! Composed texts. The same letter with marks can be written in several ways; in
the composed one the marks stand in the order of their classes, and as few
characters as possible are used. -/

namespace RobotRules.Text

open Character

/-- The letter and the marks that a character stands for. A mark stands for
itself, and of a letter that stands for two characters only the first may again
stand for two. -/
def spreadOf (c : Char) : Text :=
  match parts? c with
  | none => [c]
  | some (first, second) =>
    match parts? first with
    | none => [first, second]
    | some (base, inner) => [base, inner, second]

/-- A character put in front of others. A mark goes behind the marks of lower
class that follow it; a letter stays in front. -/
def placeMark (c : Char) : Text → Text
  | [] => [c]
  | next :: rest =>
    if combiningClass next ≠ 0 ∧ combiningClass next < combiningClass c then
      next :: placeMark c rest
    else c :: next :: rest

/-- The text with no two characters in one, and with its marks in order. -/
def spread (text : Text) : Text := (text.flatMap spreadOf).foldr placeMark []

/-- What becomes of a letter, of the reversed marks behind it that did not join
with it, and of a text. A mark joins with the letter unless a mark of the same
or a higher class stands between them; anything else only if nothing does. -/
def gather (letter : Char) (marks : Text) : Text → Text
  | [] => letter :: marks.reverse
  | c :: rest =>
    let isNear := match marks with
      | [] => true
      | mark :: _ => combiningClass mark < combiningClass c
    match if isNear then whole? letter c else none with
    | some joined => gather joined marks rest
    | none =>
      if combiningClass c = 0 then letter :: marks.reverse ++ gather c [] rest
      else gather letter (c :: marks) rest

/-- A text in which letters have joined with their marks. -/
def gatherAll : Text → Text
  | [] => []
  | c :: rest => if combiningClass c = 0 then gather c [] rest else c :: gatherAll rest

/-- The composed way to write a text. -/
def compose (text : Text) : Text := gatherAll (spread text)

/-- Whether a text is written in the composed way. -/
def isComposed (text : Text) : Bool := compose text == text

/-- The cedilla belongs to the letter before the accent does. -/
example : compose "é\u0327" = "ȩ\u0301" := by decide +kernel

end RobotRules.Text
