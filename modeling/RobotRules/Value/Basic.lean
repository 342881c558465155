import RobotRules.Number.Double
import RobotRules.Text.Basic

/-! The values that flow through rules and memory. Texts, booleans, numbers and
the absent value are what rules compute with; lists, tuples and dictionaries
come from capabilities and from outside and are only carried. -/

namespace RobotRules

/-- A value of a rule. A NaN differs from every number, itself included, but a
list that holds one is still equal to itself; `identity` tells apart the NaNs
that were read at different places. -/
inductive Value where
  | absent
  | boolean (truth : Bool)
  | integer (number : Int)
  | float (number : Double)
  | nan (identity : Nat)
  | text (characters : Text)
  | list (items : List Value)
  | tuple (items : List Value)
  | dict (entries : List (Value × Value))

instance : Inhabited Value := ⟨.absent⟩

/-- The kinds that rules tell apart. -/
inductive Kind where
  | text
  | boolean
  | number
  | absent
  | other
deriving DecidableEq, Repr

/-- The written name of a kind. -/
def Kind.name : Kind → Text
  | .text => "string"
  | .boolean => "boolean"
  | .number => "number"
  | .absent => "absent"
  | .other => "other"

namespace Value

def kind : Value → Kind
  | .absent => .absent
  | .boolean _ => .boolean
  | .integer _ | .float _ | .nan _ => .number
  | .text _ => .text
  | .list _ | .tuple _ | .dict _ => .other

/-- The name of the type of a value, as messages give it. -/
def typeName : Value → Text
  | .absent => "NoneType"
  | .boolean _ => "bool"
  | .integer _ => "int"
  | .float _ | .nan _ => "float"
  | .text _ => "str"
  | .list _ => "list"
  | .tuple _ => "tuple"
  | .dict _ => "dict"

/-- Only a boolean truth counts as true. -/
def asBool : Value → Bool
  | .boolean truth => truth
  | _ => false

/-- A text stands for itself, all else for the empty text. -/
def asText : Value → Text
  | .text characters => characters
  | _ => []

/-- Whether a setting counts as given: it is neither absent nor false nor zero
nor empty. -/
def isGiven : Value → Bool
  | .absent => false
  | .boolean truth => truth
  | .integer number => number != 0
  | .float number => !number.isZero
  | .nan _ => true
  | .text characters => !characters.isEmpty
  | .list items | .tuple items => !items.isEmpty
  | .dict entries => !entries.isEmpty

end Value

end RobotRules
