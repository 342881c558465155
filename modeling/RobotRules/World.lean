import RobotRules.Chat.Basic
import RobotRules.Evaluation
import RobotRules.Memory
import RobotRules.Robot

/-! The world that rules act on: memory, the robot, the capabilities that drive
it, the chat service, a clock and a log. -/

namespace RobotRules

/-- What the robot is believed to do of its own accord: whether it drives to a place and
whether it follows the user. -/
structure Motion where
  isMoving : Bool
  isFollowing : Bool
deriving DecidableEq, Repr

namespace Motion

def stationary : Motion := ⟨false, false⟩

def navigating : Motion := ⟨true, false⟩

def following : Motion := ⟨false, true⟩

/-- A motion in one word. Following takes precedence. -/
def name (motion : Motion) : Text :=
  if motion.isFollowing then "following"
  else if motion.isMoving then "navigating"
  else "stationary"

end Motion

/-- A capability that is none of the engine's own. The program around the engine may
register any; to rules it is a name with operations that do nothing to the rest of the
world, give a value, or fail, and so this one has an operation for each. The calls of
a watched one are taken down. -/
structure Probe where
  name : Text
  gives : Value
  failsCleanup : Bool
  isWatched : Bool

/-- The capabilities, with what they keep track of. -/
inductive Capability where
  | speech
  | recognition (listening : Bool)
  | head
  | motion (state : Motion)
  | places
  | system
  | assistant
  | probe (probe : Probe)

/-- The name that a capability has by itself. -/
def Capability.name : Capability → Text
  | .speech => "TTS"
  | .recognition _ => "ASR"
  | .head => "TiltHead"
  | .motion _ => "Move"
  | .places => "Locations"
  | .system => "System"
  | .assistant => "Assistant"
  | .probe other => other.name

/-- The capabilities under the names that rules call them by, in the order of
their registration. -/
abbrev Registry := List (Text × Capability)

/-- All that rules can see and change. -/
structure World where
  /-- What the clock shows, in milliseconds. -/
  clock : Int
  memory : Memory
  robot : Robot
  registry : Registry
  config : Config
  /-- The replies that the chat service has ready. -/
  replies : Replies
  /-- The questions that were sent to it. -/
  requests : List Chat.Request
  /-- The pauses that were made for speech, in microseconds. -/
  pauses : List Int
  /-- The calls that watched probes were given. -/
  calls : List (List Value)
  log : Log

namespace World

/-- Actions on the world. -/
abbrev Action := Act World

/-- Adds an entry to the log. -/
def record (entry : LogEntry) (world : World) : World :=
  { world with log := world.log ++ [entry] }

def warn (channel message : Text) : Action Unit :=
  modify (record ⟨.warning, channel, message⟩)

def reportError (channel message : Text) : Action Unit :=
  modify (record ⟨.error, channel, message⟩)

/-- Tells the robot to do something. -/
def tell (action : RobotAction) : Action Unit :=
  modify fun world => { world with robot := world.robot.act action }

/-- Shows a line of the conversation and remembers it. -/
def addLine (role text : Text) : Action Unit :=
  modify fun world =>
    { world with
      robot := world.robot.showLine role text
      memory := world.memory.addTurn world.clock (.text role) (.text text) }

/-- Fails if a value cannot name a parameter. -/
def needName (name : Value) : Action Unit :=
  if name.isName then return () else throw .notAName

/-- Writes a parameter. -/
def write (name value : Value) : Action Unit := do
  needName name
  modify fun world => { world with memory := world.memory.write world.clock name value }

/-- The capability that is registered under a name. -/
def capability? (receiver : Text) (world : World) : Option Capability :=
  (world.registry.find? fun entry => entry.1 == receiver).map Prod.snd

/-- Puts a capability in the place of the one that has the name, or at the end
if none has. -/
def install (receiver : Text) (capability : Capability) : Registry → Registry
  | [] => [(receiver, capability)]
  | (other, old) :: rest =>
    if other = receiver then (other, capability) :: rest
    else (other, old) :: install receiver capability rest

def setCapability (receiver : Text) (capability : Capability) : Action Unit :=
  modify fun world => { world with registry := install receiver capability world.registry }

/-- Does an action and gives what came of it, failure or not. -/
def attempt {α : Type} (act : Action α) : Action (Except Failure α) := fun world =>
  match act world with
  | .ok result world => .ok (.ok result) world
  | .error failure world => .ok (.error failure) world

end World

end RobotRules
