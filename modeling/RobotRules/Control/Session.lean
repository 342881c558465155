import RobotRules.Config.Environment
import RobotRules.Control.Server

/-! The life of the control server: it loads the settings, sets up the engine,
starts the loop, serves requests, and shuts down. -/

namespace RobotRules.Control

/-- What the server finds when it starts. -/
structure Surroundings where
  files : Files
  configFile : Option Text
  environment : Config.Environment
  chatReplies : Replies
  /-- Whether the log was set up by the program that the server is part of. -/
  hasLog : Bool

/-- The installed apps of the robot that the server drives. -/
def serverApps : List Text := []

/-- A line that the server writes. -/
def serverLine (text : Text) : Text := "[Rulebot] " ++ text

/-- What the server says about the chat service. -/
def assistantLine (config : AssistantConfig) : Text :=
  if (Chat.Client.ofConfig config).isAvailable then
    serverLine ("Assistant ready (" ++ config.model.toValue.display ++ ")")
  else serverLine "Assistant not available (no API token)"

/-- The server that has been started, and the lines it wrote. The interval
between ticks may be given in place of the one in the settings. -/
def start (surroundings : Surroundings) (interval : Option Json) :
    Except Failure (List Text × Server) := do
  let loaded ← Config.load surroundings.configFile surroundings.environment
  let config := match interval with
    | some interval => loaded.config.withTickInterval interval
    | none => loaded.config
  Config.setUpLog surroundings.hasLog config.server.logLevel
  let robot := Robot.idle (config.robot.locations.map Json.toValue) serverApps false
  let world := World.fresh config robot surroundings.chatReplies
  let (text, log) ← Rule.load config.rules.path.toValue surroundings.files
  let engine : Engine := ⟨world, Loop.idle config.loop .own text⟩
  let engine ← (engine.recordAll log).start
  let lines := [serverLine "Starting up..."] ++
    loaded.warning?.toList ++
    [serverLine ("Loaded config (tick interval: " ++
        config.loop.tickInterval.toValue.display ++ " ms)"),
      serverLine ("Capabilities: " ++ Text.join ", " world.names),
      assistantLine config.assistant,
      serverLine ("Interaction loop running (" ++
        Number.writeNat engine.loop.rules.length ++ " rules)")]
  return (lines, ⟨engine, true, some config.rules.address.toValue⟩)

/-- The server that has been shut down, and the line it wrote. -/
def shutDown (server : Server) : List Text × Server :=
  let (_, engine) := server.engine.stop.act World.cleanup
  ([serverLine "Shutting down..."], { server with engine := engine })

end RobotRules.Control
