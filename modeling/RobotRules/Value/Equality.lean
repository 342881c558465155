import RobotRules.Value.Basic

/-! Equality of values. Inside lists, and between the names of parameters, a
boolean is the number 0 or 1 and a whole float is an integer; between two
operands of a rule the kinds have to agree first. -/

namespace RobotRules.Value

/-- Equality of scalar values, booleans taken as numbers. -/
def sameScalar : Value → Value → Bool
  | .absent, .absent => true
  | .text left, .text right => left == right
  | .nan left, .nan right => left == right
  | .float left, .float right => left.same right
  | .float left, .integer right => left.toInt? == some right
  | .integer left, .float right => right.toInt? == some left
  | .float left, .boolean right => left.toInt? == some right.toInt
  | .boolean left, .float right => right.toInt? == some left.toInt
  | .integer left, .integer right => left == right
  | .integer left, .boolean right => left == right.toInt
  | .boolean left, .integer right => left.toInt == right
  | .boolean left, .boolean right => left == right
  | _, _ => false

mutual
/-- Whether two values are the same as items of a list or as names. -/
def same : Value → Value → Bool
  | .list left, .list right => sameItems left right
  | .tuple left, .tuple right => sameItems left right
  | .dict left, .dict right =>
    left.length == right.length && sameEntries left right
  | left, right => sameScalar left right

def sameItems : List Value → List Value → Bool
  | [], [] => true
  | left :: lefts, right :: rights => same left right && sameItems lefts rights
  | _, _ => false

/-- Whether each entry on the left has its like on the right. -/
def sameEntries : List (Value × Value) → List (Value × Value) → Bool
  | [], _ => true
  | (name, value) :: rest, entries =>
    entries.any (fun entry => same name entry.1 && same value entry.2) &&
      sameEntries rest entries
end

/-- Equality between two operands of a rule. Operands of different kinds are
unequal, and so is a NaN to itself. -/
def equal (left right : Value) : Bool :=
  match left, right with
  | .nan _, .nan _ => false
  | left, right => left.kind == right.kind && same left right

mutual
/-- Whether a value can name a parameter. Lists and dictionaries cannot, since
they may change. -/
def isName : Value → Bool
  | .list _ | .dict _ => false
  | .tuple items => areNames items
  | _ => true

def areNames : List Value → Bool
  | [] => true
  | item :: rest => isName item && areNames rest
end

example : equal (.boolean true) (.integer 1) = false := by decide
example : equal (.list [.boolean true]) (.list [.integer 1]) = true := by decide
example : equal (.nan 0) (.nan 0) = false := by decide

end RobotRules.Value
