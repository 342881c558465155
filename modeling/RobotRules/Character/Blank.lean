/-! White space of Unicode 14: the separators of general category Z and the
control characters that separate lines, fields and records. The zero-width
characters are not among them. -/

namespace RobotRules.Character

/-- White space, as it is trimmed from both ends of a text. -/
def isBlank (c : Char) : Bool :=
  let code := c.toNat
  (9 ≤ code && code ≤ 13) || (28 ≤ code && code ≤ 32) ||
    code == 0x85 || code == 0xa0 || code == 0x1680 ||
    (0x2000 ≤ code && code ≤ 0x200a) || code == 0x2028 || code == 0x2029 ||
    code == 0x202f || code == 0x205f || code == 0x3000

/-- The four ASCII characters that are white space everywhere. -/
example : [' ', '\t', '\n', '\r'].all isBlank = true := by decide

/-- The zero-width space and the byte order mark are not blank. -/
example : isBlank '\u200b' = false ∧ isBlank '\ufeff' = false := by decide

end RobotRules.Character
