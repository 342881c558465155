import RobotRules.Nesting.Basic

/-! Cutting a text at the separators that stand at the top. -/

namespace RobotRules.Nesting

/-- Puts a character in front of the first segment. -/
def extend (c : Char) : List Text → List Text
  | [] => [[c]]
  | segment :: segments => (c :: segment) :: segments

/-- The segments between the separators at the top, behind a place with the
given nesting. -/
def segmentsFrom (separator : Char) (state : Nesting) : Text → List Text
  | [] => [[]]
  | c :: rest =>
    if state.isTop && c == separator && !isDelimiter c then
      [] :: segmentsFrom separator state rest
    else extend c (segmentsFrom separator (state.next c) rest)

/-- The trimmed segments between the separators at the top. -/
def split (separator : Char) (text : Text) : List Text :=
  (segmentsFrom separator outside text).map Text.trim

/-- The texts of the actions of a rule; empty ones do not count. -/
def splitActions (text : Text) : List Text :=
  (split ';' text).filter fun segment => !segment.isEmpty

/-- The texts of the arguments of a call; a blank text holds none. -/
def splitArguments (text : Text) : List Text :=
  if Text.isBlank text then [] else split ',' text

example : splitArguments "\"a, b\", f(c, d)" =
    (["\"a, b\"", "f(c, d)"] : List Text) := by decide

end RobotRules.Nesting
