import RobotRules.Text.Basic

/-! Code points, and texts as code units of 16 bits. A character beyond the first 65536 is a
pair of units, a high and a low surrogate. Half of a pair can stand alone in what comes from
outside. It is a code point then, but no character; where a text is made of it, it is read
as the replacement character. -/

namespace RobotRules

/-- A code point. The surrogates of either kind are counted from the first one. -/
inductive Point where
  | char (c : Char)
  | high (offset : Fin 0x400)
  | low (offset : Fin 0x400)
deriving DecidableEq, Repr

/-- A sequence of code points. -/
abbrev Points := List Point

namespace Text

def isHighSurrogate (unit : Nat) : Bool := 0xd800 ≤ unit && unit < 0xdc00

def isLowSurrogate (unit : Nat) : Bool := 0xdc00 ≤ unit && unit < 0xe000

/-- The character of a surrogate pair. -/
def ofPair (high low : Nat) : Char :=
  Char.ofNat (0x10000 + (high - 0xd800) * 0x400 + (low - 0xdc00))

/-- The code points of a text. -/
def points (text : Text) : Points := text.map .char

end Text

namespace Point

/-- The character that the point is, or the one that replaces it. -/
def toChar : Point → Char
  | .char c => c
  | .high _ | .low _ => '\ufffd'

/-- The point that is a character. -/
def char? : Point → Option Char
  | .char c => some c
  | .high _ | .low _ => none

/-- The point of a code unit that stands alone. -/
def ofUnit (unit : Nat) : Point :=
  if Text.isHighSurrogate unit then .high (.ofNat _ (unit - 0xd800))
  else if Text.isLowSurrogate unit then .low (.ofNat _ (unit - 0xdc00))
  else .char (.ofNat unit)

/-- The points of code units. -/
def ofUnits : List Nat → Points
  | [] => []
  | [unit] => [ofUnit unit]
  | unit :: next :: rest =>
    if Text.isHighSurrogate unit && Text.isLowSurrogate next then
      .char (Text.ofPair unit next) :: ofUnits rest
    else ofUnit unit :: ofUnits (next :: rest)

example : ofUnits [0x61, 0xd83d, 0xde00, 0xd83d] = [.char 'a', .char '😀', .high 0x3d] := by
  decide

end Point

namespace Points

/-- The text of the points, with the replacement character for what is no character. -/
def toText (points : Points) : Text := points.map Point.toChar

/-- The text of points that are all characters. -/
def text? (points : Points) : Option Text := points.mapM Point.char?

end Points

end RobotRules
