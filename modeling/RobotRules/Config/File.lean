import RobotRules.Config.Basic
import RobotRules.Failure
import RobotRules.Json.Reader
import RobotRules.Json.Writer

/-! The settings file. It is read section by section; where a section cannot be
read, the sections before it keep what the file says. -/

namespace RobotRules.Config

/-- Why a section cannot be read. -/
inductive SectionError where
  /-- A value of this type stands where settings belong. -/
  | noSettings (typeName : Text)
  /-- The places are nothing that can be gone through one by one. -/
  | noList

/-- The settings of a section; a missing section has none. -/
def settings? (name : Text) : Json → Except SectionError (List (Points × Json))
  | .object sections =>
    match (Json.member? name.points sections).getD (.object []) with
    | .object settings => .ok settings
    | other => .error (.noSettings other.toValue.typeName)
  | other => .error (.noSettings other.toValue.typeName)

/-- A setting, or its default if it is missing. -/
def setting (settings : List (Points × Json)) (name : Text) (default : Json) : Json :=
  (Json.member? name.points settings).getD default

/-- The values that make up a list, the code points of a string, or the names in an
object. -/
def itemsOf? : Json → Option (List Json)
  | .list items => some items
  | .string points => some (points.map fun point => .string [point])
  | .object members => some (members.map fun (name, _) => .string name)
  | _ => none

def readLoop (file : Json) (config : Config) : Except SectionError Config := do
  let settings ← settings? "loop" file
  let default : LoopConfig := {}
  let loop : LoopConfig :=
    { tickInterval := setting settings "tick_interval_ms" default.tickInterval
      speechReceiver := setting settings "speech_receiver" default.speechReceiver
      speechMethod := setting settings "speech_method" default.speechMethod
      initialState := setting settings "initial_state" default.initialState }
  return { config with loop := loop }

def readRules (file : Json) (config : Config) : Except SectionError Config := do
  let settings ← settings? "rules" file
  let default : RulesConfig := {}
  let rules : RulesConfig :=
    { path := setting settings "rules_path" default.path
      address := setting settings "remote_url" default.address
      connectTimeout := setting settings "connect_timeout" default.connectTimeout
      readTimeout := setting settings "read_timeout" default.readTimeout }
  return { config with rules := rules }

def readRobot (file : Json) (config : Config) : Except SectionError Config := do
  let settings ← settings? "robot" file
  let default : RobotConfig := {}
  match itemsOf? (setting settings "locations" (.list default.locations)) with
  | none => .error .noList
  | some locations =>
    let robot : RobotConfig :=
      { speechDelayScale :=
          setting settings "speech_delay_scale" default.speechDelayScale
        locations := locations }
    return { config with robot := robot }

def readAssistant (file : Json) (config : Config) : Except SectionError Config := do
  let settings ← settings? "assistant" file
  let default : AssistantConfig := {}
  let assistant : AssistantConfig :=
    { address := setting settings "api_url" default.address
      token := setting settings "api_token" default.token
      model := setting settings "model" default.model
      timeout := setting settings "timeout" default.timeout }
  return { config with assistant := assistant }

def readServer (file : Json) (config : Config) : Except SectionError Config := do
  let settings ← settings? "server" file
  let default : ServerConfig := {}
  let server : ServerConfig :=
    { host := setting settings "host" default.host
      port := setting settings "port" default.port
      logLevel := setting settings "log_level" default.logLevel }
  return { config with server := server }

/-- The sections in the order in which they are read. -/
def sections : List (Json → Config → Except SectionError Config) :=
  [readLoop, readRules, readRobot, readAssistant, readServer]

/-- Reads sections one after the other up to the first that cannot be read. -/
def readSections (file : Json) (config : Config) :
    List (Json → Config → Except SectionError Config) → Config × Option SectionError
  | [] => (config, none)
  | read :: rest =>
    match read file config with
    | .ok config => readSections file config rest
    | .error error => (config, some error)

/-- The settings that were loaded, and why the file was not read to its end. -/
structure Loaded where
  config : Config
  problem : Option Text

/-- The warning that the file was not read to its end, if it was not. -/
def Loaded.warning? (loaded : Loaded) : Option Text :=
  loaded.problem.map fun problem =>
    "[Config] Warning: Failed to load config file: " ++ problem

/-- The settings of a file. Places that cannot be gone through, and integers
that are too long, make loading fail; all other problems are only told. -/
def ofFile (text : Text) : Except Failure Loaded :=
  let text := Text.normalizeLines text
  match Json.read text with
  | .error .integerTooLong => .error .integerTooLong
  | .error (.malformed problem rest) => .ok ⟨{}, some (problem.report text rest)⟩
  | .ok file =>
    match readSections file {} sections with
    | (config, none) => .ok ⟨config, none⟩
    | (_, some .noList) => .error .wrongType
    | (config, some (.noSettings typeName)) =>
      .ok ⟨config, some ("'" ++ typeName ++ "' object has no attribute 'get'")⟩

/-- The text of the settings file. A token from the environment is left out. -/
def toFile (config : Config) : Text :=
  let token : Json := if config.fromEnvironment.token then "" else config.assistant.token
  Json.write (config.toJsonWith token)

end RobotRules.Config
