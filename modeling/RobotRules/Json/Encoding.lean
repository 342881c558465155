import RobotRules.Text.Units
import RobotRules.Text.Utf8

/-! JSON as bytes. A JSON text begins with ASCII characters, so that the zeros among
its first bytes show how it is written. -/

namespace RobotRules.Json

/-- The ways to write a text as bytes: in units of 8, 16 or 32 bits, of which a
longer one has its big end first or last. -/
inductive Encoding where
  | units8
  | units16 (isBigFirst : Bool)
  | units32 (isBigFirst : Bool)
deriving DecidableEq, Repr

namespace Encoding

/-- The way in which the bytes of a JSON text are written. -/
def ofBytes : List Nat → Encoding
  | 0 :: 0 :: _ :: _ :: _ => .units32 true
  | 0 :: _ :: _ :: _ :: _ => .units16 true
  | _ :: 0 :: 0 :: 0 :: _ => .units32 false
  | _ :: 0 :: _ :: _ :: _ => .units16 false
  | [0, _] => .units16 true
  | [_, 0] => .units16 false
  | _ => .units8

/-- The number that bytes spell. -/
def number (isBigFirst : Bool) (bytes : List Nat) : Nat :=
  (if isBigFirst then bytes else bytes.reverse).foldl (fun number byte =>
    number * 0x100 + byte) 0

/-- The units of two bytes, unless a byte is left over. -/
def units16? (isBigFirst : Bool) : List Nat → Option (List Nat)
  | [] => some []
  | a :: b :: rest => do
    return number isBigFirst [a, b] :: (← units16? isBigFirst rest)
  | _ => none

/-- The code points of four bytes each, unless bytes are left over or name no code
point. -/
def points32? (isBigFirst : Bool) : List Nat → Option Points
  | [] => some []
  | a :: b :: c :: d :: rest => do
    let code := number isBigFirst [a, b, c, d]
    if code > 0x10ffff then failure
    return Point.ofUnit code :: (← points32? isBigFirst rest)
  | _ => none

/-- The code points that bytes spell. -/
def decode? (bytes : List Nat) : Encoding → Option Points
  | .units8 => some (Text.ofBytes bytes).points
  | .units16 isBigFirst => (units16? isBigFirst bytes).map Point.ofUnits
  | .units32 isBigFirst => points32? isBigFirst bytes

end Encoding

/-- The code points of a body, which has arrived as the bytes of another text. One byte
order mark in front is passed over. -/
def bodyPoints? (body : Text) : Option Points :=
  match body with
  | '\ufeff' :: rest => some (Text.points rest)
  | body =>
    let bytes := Text.bytes body
    (Encoding.ofBytes bytes).decode? bytes

/-- The text of a body. -/
def bodyText? (body : Text) : Option Text := (bodyPoints? body).map Points.toText

example : bodyText? "\x00[\x00]" = some "[]" ∧ bodyText? "[\x00]\x00\x00" = none := by decide

end RobotRules.Json
