import RobotRules.Event
import RobotRules.Loop.Tick
import RobotRules.Rule.Remote

/-! The engine: a loop of rules and the world that they act on. -/

namespace RobotRules

structure Engine where
  world : World
  loop : Loop

namespace Engine

/-- Changes the world by an action, and gives what comes of it. -/
def act {α : Type} (action : World.Action α) (engine : Engine) :
    Except Failure α × Engine :=
  match action engine.world with
  | .ok result world => (.ok result, { engine with world := world })
  | .error failure world => (.error failure, { engine with world := world })

/-- Adds entries to the log. -/
def recordAll (log : Log) (engine : Engine) : Engine :=
  { engine with world := Loop.recordAll World.host log engine.world }

/-- One tick of the loop. -/
def tick (engine : Engine) : Engine :=
  let (loop, world) := engine.loop.tick World.host engine.world
  ⟨world, loop⟩

/-- Runs the batches that wait. -/
def drain (engine : Engine) : Engine :=
  let (loop, world) := engine.loop.drain World.host engine.world
  ⟨world, loop⟩

/-- The world with the state of the interaction that the settings give, if they
give one. -/
def seed (engine : Engine) : Engine :=
  let state := engine.loop.settings.initialState.toValue
  if state.isGiven then
    (engine.act (World.write Memory.interactionState state)).2
  else engine

/-- Starts the loop, which begins with a tick. A loop that runs keeps running,
and one that was stopped cannot be started again. -/
def start (engine : Engine) : Except Failure Engine :=
  match engine.loop.phase with
  | .running => .ok engine
  | .stopped => .error .restarted
  | .idle =>
    let engine := engine.seed
    let (loop, log) := engine.loop.begin
    .ok (tick (recordAll log { engine with loop := loop }))

/-- Stops the loop. -/
def stop (engine : Engine) : Engine := { engine with loop := engine.loop.stop }

/-- Hands a new rule text to the loop. -/
def replace (text : Text) (engine : Engine) : Engine :=
  { engine with loop := engine.loop.replace text }

/-- Hands the rules at an address to the loop: whether there were any. -/
def replaceFrom (locate : Service.Locator) (address : Value) (reply : Reply)
    (engine : Engine) : Except Failure (Bool × Engine) := do
  let (arrived, loop, log) ← engine.loop.replaceFrom locate address reply
  return (arrived, recordAll log { engine with loop := loop })

/-- The robot heard a text. -/
def hear (text : Text) (reported : Option Text) (detection : Language.Detection)
    (engine : Engine) : Except Failure Unit × Engine :=
  engine.act (Event.hear text (Event.languageOf text reported detection))

end Engine

end RobotRules
