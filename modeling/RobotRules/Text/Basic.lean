import RobotRules.Character.Blank

/-! Texts are lists of characters, so that every definition over them recurses
on the text itself. String literals stand for the texts they spell. -/

namespace RobotRules

/-- A sequence of Unicode characters. -/
abbrev Text := List Char

instance : Coe String Text where
  coe := String.toList

namespace Text

open Character (isBlank)

/-- The text without the white space at its front. -/
def trimStart (text : Text) : Text := text.dropWhile isBlank

/-- The text without the white space at its back. -/
def trimEnd (text : Text) : Text := (trimStart text.reverse).reverse

/-- The text without the white space at either end. -/
def trim (text : Text) : Text := trimEnd (trimStart text)

/-- Whether there is nothing but white space. -/
def isBlank (text : Text) : Bool := text.all Character.isBlank

/-- The texts in a row, with `separator` between each two. -/
def join (separator : Text) (parts : List Text) : Text :=
  separator.intercalate parts

/-- The lines, each ended by a line feed. -/
def ofLines (lines : List Text) : Text := lines.flatMap (· ++ ['\n'])

/-- What follows `start`, if the text begins with it. -/
def after? (start : Text) : Text → Option Text
  | text => if start.isPrefixOf text then some (text.drop start.length) else none

/-- How often `part` occurs in the text without overlap; `skip` characters of
an occurrence are still to be passed. -/
def countFrom (part : Text) : Nat → Text → Nat
  | _, [] => 0
  | skip + 1, _ :: rest => countFrom part skip rest
  | 0, c :: rest =>
    if part.isPrefixOf (c :: rest) then
      countFrom part (part.length - 1) rest + 1
    else countFrom part 0 rest

/-- How often the nonempty `part` occurs in the text without overlap. -/
def count (part text : Text) : Nat := countFrom part 0 text

/-- The pieces of the text between the occurrences of `separator`. -/
def splitOn (separator : Char) : Text → List Text
  | [] => [[]]
  | c :: rest =>
    match splitOn separator rest with
    | [] => [[c]]
    | piece :: pieces =>
      if c == separator then [] :: piece :: pieces else (c :: piece) :: pieces

/-- Every way of ending a line, written as a line feed. -/
def normalizeLines : Text → Text
  | [] => []
  | '\r' :: '\n' :: rest => '\n' :: normalizeLines rest
  | '\r' :: rest => '\n' :: normalizeLines rest
  | c :: rest => c :: normalizeLines rest

/-- Code point order. -/
def before : Text → Text → Bool
  | [], right => !right.isEmpty
  | _ :: _, [] => false
  | l :: left, r :: right =>
    if l == r then before left right else l.toNat < r.toNat

example : trim " \t a b \n" = "a b" := by decide
example : join ", " ["a", "b"] = "a, b" := by decide
example : count "-->" "a --> b --> c" = 2 := by decide
example : splitOn '-' "zh-cn" = (["zh", "cn"] : List Text) := by decide
example : normalizeLines "a\r\nb\rc\n" = "a\nb\nc\n" := by decide

end Text

end RobotRules
