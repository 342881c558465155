import RobotRules.Number.Decimal
import RobotRules.Text.Quoted
import RobotRules.Value.Basic

/-! The written form of values. -/

namespace RobotRules.Value

/-- The written form of a value without items. -/
def writeScalar : Value → Text
  | .absent => "None"
  | .boolean true => "True"
  | .boolean false => "False"
  | .integer number => Number.writeInteger number
  | .float number => number.write
  | .nan _ => "nan"
  | .text characters => Text.quoted characters
  | .list _ | .tuple _ | .dict _ => []

mutual
/-- The written form of a value, texts between quotes. -/
def write : Value → Text
  | .list items => "[" ++ Text.join ", " (writeItems items) ++ "]"
  | .tuple [item] => "(" ++ write item ++ ",)"
  | .tuple items => "(" ++ Text.join ", " (writeItems items) ++ ")"
  | .dict entries => "\x7b" ++ Text.join ", " (writeEntries entries) ++ "\x7d"
  | scalar => writeScalar scalar

def writeItems : List Value → List Text
  | [] => []
  | item :: rest => write item :: writeItems rest

def writeEntries : List (Value × Value) → List Text
  | [] => []
  | (name, value) :: rest =>
    (write name ++ ": " ++ write value) :: writeEntries rest
end

/-- The form in which a value joins other words: a text stands as it is. -/
def display : Value → Text
  | .text characters => characters
  | value => write value

mutual
/-- Whether every integer in the value is short enough to be written. -/
def isWritable : Value → Bool
  | .integer number => Number.isWritable number
  | .list items | .tuple items => areWritable items
  | .dict entries => areWritableEntries entries
  | _ => true

def areWritable : List Value → Bool
  | [] => true
  | item :: rest => isWritable item && areWritable rest

def areWritableEntries : List (Value × Value) → Bool
  | [] => true
  | (name, value) :: rest =>
    isWritable name && isWritable value && areWritableEntries rest
end

/-- A written form that is longer than this is cut. -/
def descriptionLimit : Nat := 80

/-- A short written form; the absent value has none. -/
def describe : Value → Option Text
  | .absent => none
  | value =>
    let text := write value
    if text.length ≤ descriptionLimit then some text
    else some (text.take (descriptionLimit - 3) ++ "...")

example : write (.tuple [.text "a"]) = "('a',)" := by decide
example : write (.list [.integer 1, .absent]) = "[1, None]" := by decide

end RobotRules.Value
