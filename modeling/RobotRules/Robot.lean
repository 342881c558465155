import RobotRules.Number.Integer
import RobotRules.Value.Printed

/-! The robot that capabilities drive. It does what it is told at once, keeps a
record of it, and remembers its places. -/

namespace RobotRules

/-- The speeds at which the robot moves. -/
inductive Speed where
  | high
  | medium
  | slow
deriving DecidableEq, Repr

def Speed.name : Speed → Text
  | .high => "HIGH"
  | .medium => "MEDIUM"
  | .slow => "SLOW"

/-- What the robot is told to do. -/
inductive RobotAction where
  | speak (text : Text)
  | finishConversation
  | askQuestion (text : Text)
  | tilt (degrees : Int)
  | goTo (location : Text) (backwards : Bool) (speed : Option Speed)
  | beWithMe (speed : Option Speed)
  | stopMovement
  | saveLocation (name : Text)
  | deleteLocation (name : Text)
  | startPage (page : Text)
  | launchApp (app : Text)
deriving DecidableEq, Repr

namespace RobotAction

def speedValue : Option Speed → Value
  | none => .absent
  | some speed => .text speed.name

/-- The name of an action and its arguments. -/
def parts : RobotAction → List Value
  | .speak text => [.text "speak", .text text]
  | .finishConversation => [.text "finish_conversation"]
  | .askQuestion text => [.text "ask_question", .text text]
  | .tilt degrees => [.text "tilt_angle", .integer degrees]
  | .goTo location backwards speed =>
    [.text "go_to", .text location, .boolean backwards, speedValue speed]
  | .beWithMe speed => [.text "be_with_me", speedValue speed]
  | .stopMovement => [.text "stop_movement"]
  | .saveLocation name => [.text "save_location", .text name]
  | .deleteLocation name => [.text "delete_location", .text name]
  | .startPage page => [.text "start_page", .text page]
  | .launchApp app => [.text "launch_app", .text app]

/-- An action in words. -/
def describe (action : RobotAction) : Text :=
  Text.join " " (action.parts.map Value.display)

end RobotAction

/-- The robot. Its places come from the settings, where something else than a
text may stand for one. -/
structure Robot where
  locations : List Value
  installedApps : List Text
  /-- Whether the robot declines to save and to delete places: it takes note of what it is
  told, and answers that nothing was done. A simulated robot never does, but the robot that
  is driven through an adapter may. -/
  keepsLocations : Bool
  /-- All it was told so far. -/
  actions : List RobotAction
  /-- All lines of the conversation that it showed, with who said them. -/
  messages : List (Text × Text)
  listening : Bool
  headAngle : Int

namespace Robot

/-- The place where the robot is at home. -/
def homeBase : Text := "home base"

/-- A robot that has not been told anything yet. -/
def idle (locations : List Value) (installedApps : List Text)
    (keepsLocations : Bool) : Robot :=
  ⟨locations, installedApps, keepsLocations, [], [], false, 0⟩

/-- Tells the robot to do something. -/
def act (action : RobotAction) (robot : Robot) : Robot :=
  { robot with actions := robot.actions ++ [action] }

/-- Shows a line of the conversation. -/
def showLine (role text : Text) (robot : Robot) : Robot :=
  { robot with messages := robot.messages ++ [(role, text)] }

end Robot

end RobotRules
