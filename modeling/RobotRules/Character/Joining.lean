import RobotRules.Character.Mark

/-! How the letters of cursive scripts join, after Unicode 14. The tables tell
apart only the letters that a label of a host name may hold. -/

namespace RobotRules.Character

def joinsNextBounds : Array Nat := #[
    0x620, 0x621, 0x626, 0x627, 0x628, 0x629, 0x62a, 0x62f, 0x633, 0x648, 0x649, 0x660,
    0x66e, 0x671, 0x679, 0x688, 0x69a, 0x6c0, 0x6c1, 0x6c3, 0x6cc, 0x6cd, 0x6ce, 0x6cf,
    0x6d0, 0x6d2, 0x6fa, 0x6fd, 0x6ff, 0x710, 0x712, 0x715, 0x71a, 0x71e, 0x71f, 0x728,
    0x729, 0x72a, 0x72b, 0x72c, 0x72d, 0x72f, 0x74e, 0x759, 0x75c, 0x76b, 0x76d, 0x771,
    0x772, 0x773, 0x775, 0x778, 0x77a, 0x780, 0x7ca, 0x7f4, 0x841, 0x846, 0x848, 0x849,
    0x84a, 0x854, 0x855, 0x856, 0x860, 0x861, 0x862, 0x866, 0x868, 0x869, 0x886, 0x887,
    0x889, 0x88e, 0x8a0, 0x8aa, 0x8af, 0x8b1, 0x8b3, 0x8b9, 0x8ba, 0x8c9, 0x1820, 0x1880,
    0x1887, 0x18b0, 0xa840, 0xa873, 0x10ac0, 0x10ac5, 0x10acd, 0x10ace, 0x10ad3, 0x10add,
    0x10ade, 0x10ae1, 0x10b80, 0x10b81, 0x10b82, 0x10b83, 0x10b86, 0x10b89, 0x10b8a,
    0x10b8c, 0x10b8d, 0x10b8e, 0x10b90, 0x10b91, 0x10d00, 0x10d22, 0x10d23, 0x10d30,
    0x10f30, 0x10f33, 0x10f34, 0x10f45, 0x10f70, 0x10f74, 0x10f76, 0x10fb1, 0x10fb2,
    0x10fb4, 0x10fb8, 0x10fb9, 0x10fbb, 0x10fbd, 0x10fbe, 0x10fc0, 0x10fc1, 0x10fc2,
    0x10fc4, 0x10fe0, 0x1e922, 0x1e950]

def joinsPreviousBounds : Array Nat := #[
    0x620, 0x621, 0x622, 0x660, 0x66e, 0x674, 0x679, 0x6e5, 0x6ee, 0x6f0, 0x6fa, 0x6fd,
    0x6ff, 0x780, 0x7ca, 0x7f4, 0x840, 0x861, 0x862, 0x866, 0x867, 0x883, 0x886, 0x887,
    0x889, 0x8ad, 0x8ae, 0x8c9, 0x1820, 0x1880, 0x1887, 0x18b0, 0xa840, 0xa872, 0x10ac0,
    0x10ac6, 0x10ac7, 0x10acb, 0x10ace, 0x10ad7, 0x10ad8, 0x10ae2, 0x10ae4, 0x10b00,
    0x10b80, 0x10c00, 0x10d01, 0x10d30, 0x10f30, 0x10f45, 0x10f70, 0x10fb1, 0x10fb2,
    0x10fb7, 0x10fb8, 0x10fc0, 0x10fc1, 0x10fe0, 0x1e922, 0x1e950]

/-- Letters that join with the one behind them. -/
def joinsNext (c : Char) : Bool := inRanges joinsNextBounds c.toNat

/-- Letters that join with the one before them. -/
def joinsPrevious (c : Char) : Bool := inRanges joinsPreviousBounds c.toNat

/-- Characters over which letters join: the marks that take no room, but not the
Ahom medial ra, and one modifier letter of Adlam. -/
def isJoinedOver (c : Char) : Bool :=
  (isNonspacing c && c.toNat != 0x1171e) || c.toNat == 0x1e94b

/-- Arabic beh joins on both sides, alef only with the letter before it. -/
example : joinsNext '\u0628' = true ∧ joinsPrevious '\u0628' = true ∧
    joinsNext '\u0627' = false ∧ joinsPrevious '\u0627' = true := by decide +kernel

end RobotRules.Character
