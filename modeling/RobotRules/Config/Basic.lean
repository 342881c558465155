import RobotRules.Json.Basic

/-! Settings. A setting comes from a file and may hold a JSON value of any type; what
it is good for shows only where it is used. -/

namespace RobotRules

/-- How often the rules are evaluated, what counts as speech, and what the state
of the interaction is at the start; no state is set if that is not given. -/
structure LoopConfig where
  tickInterval : Json := .integer 200
  speechReceiver : Json := "TTS"
  speechMethod : Json := "speak"
  initialState : Json := "Active"

/-- The path of the rules that come with the engine. -/
def bundledPath : Text := "<PKG>/rules/default_rules.txt"

/-- Where rules come from. -/
structure RulesConfig where
  path : Json := .ofText bundledPath
  address : Json :=
    "https://raw.githubusercontent.com/JoelCoster/temirules/refs/heads/main/rules.txt"
  connectTimeout : Json := .float (.ofRatio false 5 1)
  readTimeout : Json := .float (.ofRatio false 10 1)

/-- The robot: how long it pauses for its own speech, as a multiple of the
estimated time, and which places it knows. -/
structure RobotConfig where
  speechDelayScale : Json := .float (.ofRatio false 1 1)
  locations : List Json := ["home base"]

/-- The chat service that answers questions. -/
structure AssistantConfig where
  address : Json := "https://router.huggingface.co/v1/chat/completions"
  token : Json := ""
  model : Json := "openai/gpt-oss-20b:together"
  timeout : Json := .float (.ofRatio false 30 1)

/-- The control server. -/
structure ServerConfig where
  host : Json := "0.0.0.0"
  port : Json := .integer 8090
  logLevel : Json := "INFO"

/-- Which settings of the assistant were taken from the environment. -/
structure FromEnvironment where
  token : Bool := false
  address : Bool := false
  model : Bool := false
deriving DecidableEq

/-- All settings. -/
structure Config where
  loop : LoopConfig := {}
  rules : RulesConfig := {}
  robot : RobotConfig := {}
  assistant : AssistantConfig := {}
  server : ServerConfig := {}
  fromEnvironment : FromEnvironment := {}

namespace Config

instance : Inhabited Config := ⟨{}⟩

/-- The names of the settings that were taken from the environment, sorted. -/
def environmentNames (config : Config) : List Text :=
  let named (taken : Bool) (name : Text) : List Text := if taken then [name] else []
  named config.fromEnvironment.token "api_token" ++
    named config.fromEnvironment.address "api_url" ++
    named config.fromEnvironment.model "model"

/-- A section with its settings. -/
def sectionOf (name : Text) (settings : List (Text × Json)) : Points × Json :=
  (name.points, .object (settings.map fun (name, value) => (name.points, value)))

/-- The settings as they are written to a file, with `token` for the
assistant's. -/
def toJsonWith (token : Json) (config : Config) : Json :=
  .object [
    sectionOf "loop" [
      ("tick_interval_ms", config.loop.tickInterval),
      ("speech_receiver", config.loop.speechReceiver),
      ("speech_method", config.loop.speechMethod),
      ("initial_state", config.loop.initialState)],
    sectionOf "rules" [
      ("rules_path", config.rules.path),
      ("remote_url", config.rules.address),
      ("connect_timeout", config.rules.connectTimeout),
      ("read_timeout", config.rules.readTimeout)],
    sectionOf "robot" [
      ("speech_delay_scale", config.robot.speechDelayScale),
      ("locations", .list config.robot.locations)],
    sectionOf "assistant" [
      ("api_url", config.assistant.address),
      ("api_token", token),
      ("model", config.assistant.model),
      ("timeout", config.assistant.timeout)],
    sectionOf "server" [
      ("host", config.server.host),
      ("port", config.server.port),
      ("log_level", config.server.logLevel)]]

/-- All settings, section by section. -/
def toJson (config : Config) : Json := config.toJsonWith config.assistant.token

end Config

end RobotRules
