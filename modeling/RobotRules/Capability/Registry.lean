import RobotRules.Capability.Operation

/-! The registry of capabilities, and memory as rules see it. -/

namespace RobotRules

namespace Text

/-- The texts in the order of their code points. -/
def sort (texts : List Text) : List Text :=
  texts.mergeSort fun left right => !before right left

end Text

/-- What rules can ask of memory. -/
inductive MemoryOperation where
  | read
  | write
  | previous
  | clearHistory
  | reset
deriving DecidableEq, Repr

namespace MemoryOperation

open World

/-- The operations of memory by their names. -/
def all : List (Text × MemoryOperation) :=
  [("getStateParam", .read), ("setStateParam", .write),
   ("getPreviousStateParam", .previous), ("clearHistory", .clearHistory),
   ("reset", .reset)]

/-- Does an operation of memory. -/
def run : MemoryOperation → List Value → Action Value
  | .read, [name] => do
    needName name
    return (← get).memory.read name
  | .write, [name, value] => do
    World.write name value
    return .absent
  | .previous, [name] => do
    needName name
    return (← get).memory.previous name
  | .clearHistory, [] => do
    modify fun world => { world with memory := world.memory.clearHistory }
    return .absent
  | .reset, [] => do
    modify fun world => { world with memory := world.memory.reset }
    return .absent
  | _, _ => throw .argumentCount

end MemoryOperation

namespace World

/-- The name by which rules call memory; a capability of that name is out of
their reach. -/
def memoryReceiver : Text := "Memory"

/-- The operation that a call names. -/
def resolve (receiver method : Text) (world : World) :
    Except Failure (List Value → Action Value) :=
  if receiver = memoryReceiver then
    match Apps.find? method MemoryOperation.all with
    | some operation => .ok operation.run
    | none => .error (.unknownMethod receiver method)
  else
    match world.capability? receiver with
    | none => .error (.unknownReceiver receiver)
    | some capability =>
      match capability.operation? method with
      | some operation => .ok (operation.run receiver)
      | none => .error (.unknownMethod receiver method)

/-- The world as a host of rules. -/
def host : Host World := ⟨resolve, record⟩

def registryChannel : Text := "rulebot.skills.registry"

/-- Does an operation of a capability directly. -/
def invoke (receiver operation : Text) (arguments : List Value) : Action Value := do
  match (← get).capability? receiver with
  | none => throw .notOffered
  | some capability =>
    match capability.operation? operation with
    | none => throw (.noOperation capability.name operation)
    | some operation => operation.run receiver arguments

/-- What a capability does when it is taken out of use. The robot is never left
driving. -/
def retire (receiver : Text) : Capability → Action Unit
  | .motion _ => do
    let _ ← Movement.stop receiver
  | .probe probe => if probe.failsCleanup then throw .probe else return ()
  | _ => return ()

/-- Registers a capability under a name, or under its own if that is empty. One
that has the name already is retired first. -/
def register (name : Text) (capability : Capability) : Action Unit := do
  let receiver := if name.isEmpty then capability.name else name
  if receiver.isEmpty then throw .nameless
  match (← get).capability? receiver with
  | none => pure ()
  | some old =>
    warn registryChannel ("Replacing capability: " ++ receiver)
    retire receiver old
  setCapability receiver capability

/-- Retires the capabilities of a registry one after the other, whatever fails. -/
def retireAll : Registry → Action Unit
  | [] => return ()
  | (receiver, capability) :: rest => do
    match ← attempt (retire receiver capability) with
    | .ok () => pure ()
    | .error failure =>
      warn registryChannel ("Cleanup failed for " ++ receiver ++ ": " ++ failure.report)
    retireAll rest

/-- Retires all capabilities. -/
def cleanup : Action Unit := do retireAll (← get).registry

/-- The names of the capabilities in order. -/
def names (world : World) : List Text := Text.sort (world.registry.map Prod.fst)

/-- The names of the operations of a capability. -/
def operationNames (receiver : Text) (world : World) : List Text :=
  match world.capability? receiver with
  | some capability => capability.operations.map Prod.fst
  | none => []

/-- The capabilities that an engine has by default. -/
def defaults : List Capability :=
  [.speech, .recognition false, .head, .motion .stationary, .places, .system,
   .assistant]

/-- A new capability by its own name. -/
def default? (name : Text) : Option Capability :=
  defaults.find? fun capability => capability.name == name

/-- Registers new capabilities by their own names. -/
def equip : List Text → Action Unit
  | [] => return ()
  | name :: rest => do
    match default? name with
    | none => throw .noCapability
    | some capability => register name capability
    equip rest

/-- What the clock of a new world shows. -/
def startOfTime : Int := 1000

/-- A world in which nothing has happened yet. -/
def fresh (config : Config) (robot : Robot) (replies : Replies) : World :=
  { clock := startOfTime
    memory := .empty
    robot := robot
    registry := defaults.map fun capability => (capability.name, capability)
    config := config
    replies := replies
    requests := []
    pauses := []
    calls := []
    log := [] }

end World

end RobotRules
