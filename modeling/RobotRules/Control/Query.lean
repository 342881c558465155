import RobotRules.Text.Escaped

/-! Queries: parameters with names and values. A plus sign stands for a blank. -/

namespace RobotRules.Control

/-- The parameters of a query, in order. -/
abbrev Query := List (Text × Text)

namespace Query

/-- A name or value as it is written. -/
def writePart (part : Text) : Text :=
  part.flatMap fun c => if c = ' ' then ['+'] else Text.escape Text.isUnreserved [c]

/-- The text of a query. -/
def write (query : Query) : Text :=
  Text.join ['&'] (query.map fun (name, value) => writePart name ++ '=' :: writePart value)

/-- The name or value that is meant by a part. -/
def readPart (part : Text) : Text :=
  Text.unescape (part.map fun c => if c = '+' then ' ' else c)

/-- The parameter that a text spells. One without an equals sign has an empty
value. -/
def readParameter (text : Text) : Text × Text :=
  (readPart (text.takeWhile (· != '=')), readPart ((text.dropWhile (· != '=')).drop 1))

/-- The query that a text spells. -/
def read (text : Text) : Query :=
  ((Text.splitOn '&' text).filter (!·.isEmpty)).map readParameter

/-- The value of a name; the last one counts. -/
def find? (name : Text) (query : Query) : Option Text :=
  (query.reverse.find? fun (other, _) => other == name).map Prod.snd

example : write [("a b", "c&d"), ("é", [])] = "a+b=c%26d&%C3%A9=" := by decide
example : read "a+b=c%26d&&e" = [("a b".toList, "c&d".toList), (['e'], [])] := by decide

end Query

end RobotRules.Control
