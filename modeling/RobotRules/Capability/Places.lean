import RobotRules.World

/-! The saved places of the robot. Their names are compared without regard to
case and surrounding white space. -/

namespace RobotRules.Places

open World

def channel : Text := "rulebot.skills.places"

/-- The trimmed name that a value gives, if it is not blank. -/
def clean? : Value → Option Text
  | .text characters =>
    if Text.isBlank characters then none else some (Text.trim characters)
  | _ => none

/-- The lower case of a saved place. -/
def lower? : Value → Except Failure Text
  | .text characters => .ok (Text.lower characters)
  | _ => .error .notOffered

/-- Whether a name in lower case is among the places. They are looked at one by
one up to the first that has it. -/
def isAmong? (name : Text) : List Value → Except Failure Bool
  | [] => .ok false
  | place :: places => do
    if (← lower? place) = name then return true else isAmong? name places

/-- The places that do not have a name in lower case. -/
def without? (name : Text) : List Value → Except Failure (List Value)
  | [] => .ok []
  | place :: places => do
    let isNamed := (← lower? place) = name
    let others ← without? name places
    return if isNamed then others else place :: others

/-- The saved places. -/
def saved : Action (List Value) := return (← get).robot.locations

/-- Whether a name in lower case is among the saved places. -/
def isSaved (name : Text) : Action Bool := do
  match isAmong? name (← saved) with
  | .ok found => return found
  | .error failure => throw failure

def setSaved (places : List Value) : Action Unit :=
  modify fun world => { world with robot := { world.robot with locations := places } }

/-- Lets the robot save the place where it is. A name that is known already is
not added. -/
def robotSave (name : Text) : Action Bool := do
  if (← get).robot.keepsLocations then
    tell (.saveLocation name)
    return false
  if !(← isSaved (Text.lower name)) then
    setSaved ((← saved) ++ [.text name])
  tell (.saveLocation name)
  return true

/-- Lets the robot forget a place. -/
def robotDelete (name : Text) : Action Bool := do
  if (← get).robot.keepsLocations then
    tell (.deleteLocation name)
    return false
  let places ← saved
  match without? (Text.lower name) places with
  | .error failure => throw failure
  | .ok others =>
    setSaved others
    tell (.deleteLocation name)
    return others.length != places.length

/-- What is said when there are no places. -/
def noneSaved : Text := "No locations saved"

/-- The text of a place that is to be joined with others. -/
def nameOf? : Value → Except Failure Text
  | .text characters => .ok characters
  | _ => .error .wrongType

/-- All places in one sentence. -/
def describeAll : Action Value := do
  match ← saved with
  | [] => return .text noneSaved
  | places =>
    match places.mapM nameOf? with
    | .ok names => return .text (Text.join ", " names)
    | .error failure => throw failure

/-- Saves the place where the robot is. -/
def save (name : Value) : Action Value := do
  match clean? name with
  | none =>
    reportError channel "Location name cannot be empty"
    return .boolean false
  | some name =>
    let done ← robotSave name
    if !done then warn channel ("Failed to save location: " ++ name)
    return .boolean done

/-- Forgets a saved place. -/
def delete (name : Value) : Action Value := do
  match clean? name with
  | none =>
    reportError channel "Location name cannot be empty"
    return .boolean false
  | some name =>
    if !(← isSaved (Text.lower name)) then
      warn channel ("Location '" ++ name ++ "' not found in saved locations")
      return .boolean false
    let done ← robotDelete name
    if !done then warn channel ("Failed to delete location: " ++ name)
    return .boolean done

/-- How many places are saved. -/
def count : Action Value := return .integer (← saved).length

/-- Whether a place is saved. -/
def isKnown (name : Value) : Action Value := do
  match clean? name with
  | none => return .boolean false
  | some name => return .boolean (← isSaved (Text.lower name))

/-- The saved places as a list. -/
def all : Action Value := return .list (← saved)

end RobotRules.Places
