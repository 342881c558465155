import RobotRules.Text.Units
import RobotRules.Value.Basic

/-! The values of JSON. Their strings are sequences of code points, for an escape can spell half
of a surrogate pair. -/

namespace RobotRules

/-- A value of JSON. The members of an object stand in the order in which they were first
named. -/
inductive Json where
  | null
  | boolean (truth : Bool)
  | integer (number : Int)
  | float (number : Double)
  | nan
  | string (points : Points)
  | list (items : List Json)
  | object (members : List (Points × Json))

namespace Json

instance : Inhabited Json := ⟨.null⟩

/-- A string of characters. -/
def ofText (text : Text) : Json := .string text.points

instance : Coe String Json where
  coe text := ofText text

/-- The text of a string, if all of it are characters. -/
def text? : Json → Option Text
  | .string points => points.text?
  | _ => none

mutual
/-- The value as rules know it, with the replacement character for what is no character. -/
def toValue : Json → Value
  | .null => .absent
  | .boolean truth => .boolean truth
  | .integer number => .integer number
  | .float number => .float number
  | .nan => .nan 0
  | .string points => .text points.toText
  | .list items => .list (toValues items)
  | .object members => .dict (toEntries members)

def toValues : List Json → List Value
  | [] => []
  | item :: rest => item.toValue :: toValues rest

def toEntries : List (Points × Json) → List (Value × Value)
  | [] => []
  | (name, value) :: rest => (.text name.toText, value.toValue) :: toEntries rest
end

/-- Puts a member in the place of the one that has the name, or at the end if none has. -/
def insert (name : Points) (value : Json) : List (Points × Json) → List (Points × Json)
  | [] => [(name, value)]
  | (other, old) :: rest =>
    if other = name then (other, value) :: rest else (other, old) :: insert name value rest

/-- The value of the member with a name. -/
def member? (name : Points) (members : List (Points × Json)) : Option Json :=
  members.lookup name

end Json

end RobotRules
