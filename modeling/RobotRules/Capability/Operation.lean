import RobotRules.Capability.Apps
import RobotRules.Capability.Assistant
import RobotRules.Capability.Movement
import RobotRules.Capability.Speech

/-! The operations of the capabilities under the names that rules call them
by. -/

namespace RobotRules

/-- Everything that can be asked of a capability. -/
inductive Operation where
  | speak
  | listen
  | stopListening
  | isListening
  | setListening
  | headUp
  | headDown
  | goToLocation
  | goHome
  | follow
  | stopFollowing
  | stopMovement
  | getSavedLocations
  | isMoving
  | isFollowing
  | getMovementState
  | listLocations
  | saveLocation
  | deleteLocation
  | countLocations
  | locationExists
  | openApp
  | ask
  /-- A capability that is none of the engine's own takes note of a call. -/
  | probeRecord
  /-- Such a capability gives a value. -/
  | probeGive
  /-- Such a capability fails. -/
  | probeFail
deriving DecidableEq, Repr

namespace Capability

/-- The operations of a capability by their names, in alphabetical order. -/
def operations : Capability → List (Text × Operation)
  | .speech => [("speak", .speak)]
  | .recognition _ =>
    [("isListening", .isListening), ("listen", .listen),
     ("setListeningState", .setListening), ("stopListening", .stopListening)]
  | .head => [("down", .headDown), ("up", .headUp)]
  | .motion _ =>
    [("follow", .follow), ("getMovementState", .getMovementState),
     ("getSavedLocations", .getSavedLocations), ("goHome", .goHome),
     ("goToLocation", .goToLocation), ("isFollowing", .isFollowing),
     ("isMoving", .isMoving), ("stopFollowing", .stopFollowing),
     ("stopMovement", .stopMovement)]
  | .places =>
    [("deleteLocation", .deleteLocation), ("getLocationCount", .countLocations),
     ("listLocations", .listLocations), ("locationExists", .locationExists),
     ("saveCurrentLocation", .saveLocation)]
  | .system => [("openApp", .openApp)]
  | .assistant => [("ask", .ask)]
  | .probe _ =>
    [("fail", .probeFail), ("give", .probeGive), ("record", .probeRecord)]

/-- The operation of a capability with a name. -/
def operation? (name : Text) (capability : Capability) : Option Operation :=
  Apps.find? name capability.operations

end Capability

namespace Operation

open World

/-- The capability registered under a name that is none of the engine's own. -/
def probe (receiver : Text) : Action Probe := do
  match (← get).capability? receiver with
  | some (.probe probe) => return probe
  | _ => return ⟨receiver, .absent, false, false⟩

/-- Takes down a call of such a capability, if it is watched. -/
def takeDown (receiver : Text) (arguments : List Value) : Action Value := do
  if (← probe receiver).isWatched then
    modify fun world => { world with calls := world.calls ++ [arguments] }
  return .absent

/-- Does an operation of the capability registered as `receiver`. Each operation
takes a fixed number of arguments, save those that can be left out at the
end. -/
def run (receiver : Text) : Operation → List Value → Action Value
  | .speak, [text] => Speech.speak text
  | .listen, [] => Speech.listen receiver
  | .stopListening, [] => Speech.stopListening receiver
  | .isListening, [] => Speech.isListening receiver
  | .setListening, [listening] => Speech.setListening receiver listening
  | .headUp, [] => Movement.tiltHead Movement.raisedAngle
  | .headDown, [] => Movement.tiltHead 0
  | .goToLocation, [location] =>
    Movement.goTo receiver location .absent (.boolean false)
  | .goToLocation, [location, speed] =>
    Movement.goTo receiver location speed (.boolean false)
  | .goToLocation, [location, speed, backwards] =>
    Movement.goTo receiver location speed backwards
  | .goHome, [] => Movement.goHome receiver .absent
  | .goHome, [speed] => Movement.goHome receiver speed
  | .follow, [] => Movement.follow receiver (.text Speed.medium.name)
  | .follow, [speed] => Movement.follow receiver speed
  | .stopFollowing, [] => Movement.stop receiver
  | .stopMovement, [] => Movement.stop receiver
  | .getSavedLocations, [] => Places.all
  | .isMoving, [] => return .boolean (← Movement.motion receiver).isMoving
  | .isFollowing, [] => return .boolean (← Movement.motion receiver).isFollowing
  | .getMovementState, [] => return .text (← Movement.motion receiver).name
  | .listLocations, [] => Places.describeAll
  | .saveLocation, [name] => Places.save name
  | .deleteLocation, [name] => Places.delete name
  | .countLocations, [] => Places.count
  | .locationExists, [name] => Places.isKnown name
  | .openApp, [name] => Apps.openApp name
  | .ask, [prompt] => Assistant.ask prompt
  | .probeRecord, arguments => takeDown receiver arguments
  | .probeGive, [] => return (← probe receiver).gives
  | .probeFail, _ => throw .probe
  | _, _ => throw .argumentCount

end Operation

end RobotRules
