import RobotRules.Capability.Places

/-! Moving the head and the whole robot. -/

namespace RobotRules.Movement

open World

def channel : Text := "rulebot.skills.motion"

/-- The angle of the raised head, in degrees. -/
def raisedAngle : Int := 45

/-- Tilts the head. -/
def tiltHead (degrees : Int) : Action Value := do
  modify fun world =>
    { world with robot := { world.robot with headAngle := degrees } }
  tell (.tilt degrees)
  return .absent

/-- The speed that a value names, in any case and with white space around it. -/
def speed? : Value → Option Speed
  | .text characters =>
    [Speed.high, .medium, .slow].find? fun speed =>
      speed.name == Text.upper (Text.trim characters)
  | _ => none

/-- Whether a value asks for driving backwards: truth does, and so does its name
in any case. -/
def isBackwards? : Value → Except Failure Bool
  | .boolean true => .ok true
  | value =>
    if value.isWritable then .ok (Text.lower value.display == "true")
    else .error .integerTooLong

/-- Notes how the robot moves from now on. -/
def setMotion (receiver : Text) (state : Motion) : Action Unit :=
  setCapability receiver (.motion state)

/-- How the robot moves. -/
def motion (receiver : Text) : Action Motion := do
  match (← get).capability? receiver with
  | some (.motion state) => return state
  | _ => return .stationary

/-- Drives to a place. A place that is not saved is driven to all the same, with
a warning. -/
def goTo (receiver : Text) (location speed backwards : Value) : Action Value := do
  match location, Places.clean? location with
  | .text name, some cleaned =>
    let places ← Places.saved
    if !(← Places.isSaved (Text.lower cleaned)) then
      warn channel ("Location '" ++ name ++ "' not found in saved locations: " ++
        (Value.list places).write)
    setMotion receiver .navigating
    match isBackwards? backwards with
    | .error failure => throw failure
    | .ok backwards =>
      tell (.goTo name backwards (speed? speed))
      return .absent
  | _, _ =>
    reportError channel "Location name cannot be empty"
    return .absent

/-- Drives home. -/
def goHome (receiver : Text) (speed : Value) : Action Value := do
  setMotion receiver .navigating
  tell (.goTo Robot.homeBase false (speed? speed))
  return .absent

/-- Follows the user. -/
def follow (receiver : Text) (speed : Value) : Action Value := do
  setMotion receiver .following
  tell (.beWithMe (speed? speed))
  return .absent

/-- Stops all movement. -/
def stop (receiver : Text) : Action Value := do
  setMotion receiver .stationary
  tell .stopMovement
  return .absent

end RobotRules.Movement
