import RobotRules.Character.Mark

/-! In which direction characters are written, after Unicode 14. The table tells
apart only the characters that a label of a host name may hold. -/

namespace RobotRules.Character

/-- The directions of characters. -/
inductive Direction where
  | leftToRight
  | rightToLeft
  | arabicLetter
  | arabicNumber
  | number
  | hyphen
  | neutral
  | boundary
  /-- The direction of the character that is marked. -/
  | mark
deriving DecidableEq, Repr

/-- The code points at which the direction changes, with the direction from there
on. -/
def directionRuns : Array (Nat × Direction) := #[
    (0x2d, .hyphen), (0x30, .number), (0x61, .leftToRight), (0xb7, .neutral),
    (0xdf, .leftToRight), (0x2b9, .neutral), (0x2bb, .leftToRight), (0x2c6, .neutral),
    (0x2d0, .leftToRight), (0x2ec, .neutral), (0x2ee, .leftToRight), (0x375, .neutral),
    (0x377, .leftToRight), (0x5d0, .rightToLeft), (0x620, .arabicLetter),
    (0x660, .arabicNumber), (0x66e, .arabicLetter), (0x6f0, .number),
    (0x6fa, .arabicLetter), (0x7c0, .rightToLeft), (0x860, .arabicLetter),
    (0x903, .leftToRight), (0x200c, .boundary), (0x214e, .leftToRight), (0x2e2f, .neutral),
    (0x3005, .leftToRight), (0x30fb, .neutral), (0x30fc, .leftToRight), (0xa67f, .neutral),
    (0xa681, .leftToRight), (0xa717, .neutral), (0xa723, .leftToRight), (0xa788, .neutral),
    (0xa78c, .leftToRight), (0xfe73, .arabicLetter), (0x10000, .leftToRight),
    (0x10800, .rightToLeft), (0x10d00, .arabicLetter), (0x10d30, .arabicNumber),
    (0x10e80, .rightToLeft), (0x10f30, .arabicLetter), (0x10f70, .rightToLeft),
    (0x11000, .leftToRight), (0x1e800, .rightToLeft), (0x20000, .leftToRight)]

/-- The marks that take no room and yet go from left to right. -/
def directedMarks : List Nat := [0xcbf, 0xcc6, 0x11a07, 0x11a08, 0x11c3f]

/-- The direction of a character. -/
def direction (c : Char) : Direction :=
  if isNonspacing c && !directedMarks.contains c.toNat then .mark
  else valueAt directionRuns .neutral c.toNat

/-- A Latin, a Hebrew and an Arabic letter, a digit, and an accent. -/
example : [direction 'a', direction '\u05d0', direction '\u0628', direction '7',
    direction '\u0301'] =
    [.leftToRight, .rightToLeft, .arabicLetter, .number, .mark] := by decide +kernel

end RobotRules.Character
