import RobotRules.Character.Combining
import RobotRules.Character.Joining
import RobotRules.Text.Basic

/-! Characters that a label may hold only in a certain neighbourhood. -/

namespace RobotRules.Host

open Character

/-! Scripts, as far as a neighbourhood asks for them. Between two ranges of a
table only characters are passed over that no label may hold. -/

def greekBounds : Array Nat := #[
    0x371, 0x3e3, 0x3f3, 0x430, 0x1d26, 0x1d2b, 0x1f00, 0x200c, 0xab65, 0xab66]

def hebrewBounds : Array Nat := #[0x591, 0x610, 0xfb1e, 0xfe20]

def hiraganaBounds : Array Nat := #[
    0x3041, 0x3099, 0x309d, 0x30a1, 0x1b001, 0x1b120, 0x1b150, 0x1b164]

def katakanaBounds : Array Nat := #[
    0x30a1, 0x30fb, 0x30fd, 0x3105, 0x31f0, 0x3400, 0x1aff0, 0x1b001, 0x1b120, 0x1b150,
    0x1b164, 0x1b170]

def hanBounds : Array Nat := #[
    0x3005, 0x3006, 0x3007, 0x302a, 0x3400, 0xa000, 0xfa0e, 0xfb1e, 0x16fe3, 0x16fe4,
    0x16ff0, 0x17000, 0x20000]

def isGreek (c : Char) : Bool := inRanges greekBounds c.toNat

def isHebrew (c : Char) : Bool := inRanges hebrewBounds c.toNat

/-- The scripts that are used for Japanese. -/
def isJapanese (c : Char) : Bool :=
  inRanges hiraganaBounds c.toNat || inRanges katakanaBounds c.toNat ||
    inRanges hanBounds c.toNat

def isArabicDigit (c : Char) : Bool := 0x660 ≤ c.toNat && c.toNat ≤ 0x669

def isPersianDigit (c : Char) : Bool := 0x6f0 ≤ c.toNat && c.toNat ≤ 0x6f9

def isVirama (c : Char) : Bool := combiningClass c == viramaClass

/-- Whether the first character of a text that letters do not join over is of
some kind. -/
def meets (isOfKind : Char → Bool) (text : Text) : Bool :=
  ((text.dropWhile isJoinedOver).head?.map isOfKind).getD false

/-- Whether a character may stand between the reversed text before it and the
text after it. -/
def isInPlace (before : Text) (c : Char) (after : Text) : Bool :=
  let previous (isOfKind : Char → Bool) : Bool := (before.head?.map isOfKind).getD false
  let next (isOfKind : Char → Bool) : Bool := (after.head?.map isOfKind).getD false
  match c with
  | '\u00b7' => previous (· == 'l') && next (· == 'l')
  | '\u0375' => next isGreek
  | '\u05f3' | '\u05f4' => previous isHebrew
  | '\u30fb' => (before ++ after).any fun c => c != '\u30fb' && isJapanese c
  | '\u200c' => previous isVirama || (meets joinsNext before && meets joinsPrevious after)
  | '\u200d' => previous isVirama
  | c =>
    if isArabicDigit c then !(before ++ after).any isPersianDigit
    else if isPersianDigit c then !(before ++ after).any isArabicDigit
    else true

/-- Whether all characters of a text may stand behind the reversed text before
it. -/
def areInPlace (before : Text) : Text → Bool
  | [] => true
  | c :: rest => isInPlace before c rest && areInPlace (c :: before) rest

/-- The point of Catalan stands between two of the letter l. -/
example : areInPlace [] "col·lecció" = true ∧ areInPlace [] "a·b" = false := by
  decide +kernel

end RobotRules.Host
