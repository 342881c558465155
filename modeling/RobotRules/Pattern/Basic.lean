import RobotRules.Text.Case

/-! Patterns for utterances. A star stands for any stretch of text, a name in
braces for any stretch that is not empty, and all else for itself. Case and the
white space at both ends do not matter. -/

namespace RobotRules

/-- A piece of a pattern. -/
inductive Piece where
  /-- One character. -/
  | literal (c : Char)
  /-- A name in braces: some text. -/
  | placeholder
  /-- A star: any text, or none. -/
  | wildcard
deriving DecidableEq, Repr

abbrev Pattern := List Piece

namespace Pattern

/-- The number of characters of the placeholder at the front, its braces
included. The name is not empty and ends at the first closing brace. -/
def placeholderLength? : Text → Option Nat
  | '\x7b' :: rest =>
    let name := rest.takeWhile (· != '\x7d')
    if !name.isEmpty && name.length < rest.length then some (name.length + 2)
    else none
  | _ => none

/-- The pieces of a pattern. Of a placeholder that was found, `skip` characters
are still to be passed. -/
def ofTextFrom (skip : Nat) : Text → Pattern
  | [] => []
  | c :: rest =>
    match skip with
    | skip + 1 => ofTextFrom skip rest
    | 0 =>
      match placeholderLength? (c :: rest) with
      | some length => .placeholder :: ofTextFrom (length - 1) rest
      | none =>
        (if c = '*' then .wildcard else .literal c) :: ofTextFrom 0 rest

/-- The pieces of a pattern as it is written. -/
def ofText (text : Text) : Pattern := ofTextFrom 0 (Text.normalize text)

/-- Whether a piece takes up a stretch of the text. -/
def isHole : Piece → Bool
  | .literal _ => false
  | .placeholder | .wildcard => true

/-- How many stretches a match captures. -/
def holes (pattern : Pattern) : Nat := pattern.countP isHole

example : ofText " a*\x7bx\x7d" = [.literal 'a', .wildcard, .placeholder] := by
  decide
example : holes (ofText "\x7b\x7d \x7bopen \x7b*\x7d") = 1 := by decide

end Pattern

end RobotRules
