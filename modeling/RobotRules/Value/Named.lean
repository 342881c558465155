import RobotRules.Value.Equality

/-! Things filed under names, in the order in which the names were first used. A
name that is the same as an earlier one files under that, and the earlier
spelling stays. -/

namespace RobotRules

abbrev Named (α : Type) := List (Value × α)

namespace Named

variable {α : Type}

/-- What is filed under a name. -/
def find? (name : Value) : Named α → Option α
  | [] => none
  | (other, thing) :: rest => if other.same name then some thing else find? name rest

/-- Files a thing under a name in place of what was filed there. -/
def insert (name : Value) (thing : α) : Named α → Named α
  | [] => [(name, thing)]
  | (other, old) :: rest =>
    if other.same name then (other, thing) :: rest
    else (other, old) :: insert name thing rest

end Named

end RobotRules
