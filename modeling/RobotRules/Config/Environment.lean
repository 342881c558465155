import RobotRules.Config.File

/-! Settings from the environment. They overrule the file; a variable that is
empty counts as not set. -/

namespace RobotRules.Config

/-- A part of what a variable is set to: a character, or a byte that belongs to none. Such
bytes are counted from the first that is not ASCII. -/
inductive Piece where
  | char (c : Char)
  | stray (offset : Fin 0x80)

/-- What a variable is set to. -/
abbrev Spelling := List Piece

instance : Coe String Spelling where
  coe text := text.toList.map .char

/-- The variables of the environment. -/
abbrev Environment := List (Text × Spelling)

/-- What a variable is set to, if it is set. -/
def lookUp? (name : Text) (environment : Environment) : Option Spelling :=
  match environment.find? fun (other, _) => other == name with
  | some (_, piece :: rest) => some (piece :: rest)
  | _ => none

/-- A byte that belongs to no character is kept as a low surrogate. -/
def Piece.point : Piece → Point
  | .char c => .char c
  | .stray offset => .low ⟨0x80 + offset.val, by omega⟩

def Spelling.points (spelling : Spelling) : Points := spelling.map Piece.point

def readInteger (spelling : Spelling) : Except Failure Json :=
  match spelling.points.text?.bind Number.readInteger? with
  | some number => .ok (.integer number)
  | none => .error .notANumber

def readFloat (spelling : Spelling) : Except Failure Json :=
  match spelling.points.text?.bind Reading.ofText? with
  | some (.number number) => .ok (.float number)
  | some .notANumber => .ok .nan
  | none => .error .notANumber

/-- Changes the settings by a variable if it is set. -/
def override (environment : Environment) (name : Text) (read : Spelling → Except Failure Json)
    (change : Config → Json → Config) (config : Config) : Except Failure Config :=
  match lookUp? name environment with
  | none => .ok config
  | some spelling => do return change config (← read spelling)

def asText (spelling : Spelling) : Except Failure Json := .ok (.string spelling.points)

def withTickInterval (config : Config) (value : Json) : Config :=
  { config with loop := { config.loop with tickInterval := value } }

def withSpeechDelayScale (config : Config) (value : Json) : Config :=
  { config with robot := { config.robot with speechDelayScale := value } }

def withRulesPath (config : Config) (value : Json) : Config :=
  { config with rules := { config.rules with path := value } }

def withRulesAddress (config : Config) (value : Json) : Config :=
  { config with rules := { config.rules with address := value } }

def withHost (config : Config) (value : Json) : Config :=
  { config with server := { config.server with host := value } }

def withPort (config : Config) (value : Json) : Config :=
  { config with server := { config.server with port := value } }

def withLogLevel (config : Config) (value : Json) : Config :=
  { config with server := { config.server with logLevel := value } }

def withToken (config : Config) (value : Json) : Config :=
  { config with assistant := { config.assistant with token := value } }

def takeToken (config : Config) (value : Json) : Config :=
  { config.withToken value with
    fromEnvironment := { config.fromEnvironment with token := true } }

def takeAddress (config : Config) (value : Json) : Config :=
  { config with
    assistant := { config.assistant with address := value }
    fromEnvironment := { config.fromEnvironment with address := true } }

def takeModel (config : Config) (value : Json) : Config :=
  { config with
    assistant := { config.assistant with model := value }
    fromEnvironment := { config.fromEnvironment with model := true } }

/-- The names of the variables that are looked at. -/
def variableNames : List String :=
  ["RULEBOT_TICK_INTERVAL_MS", "RULEBOT_SPEECH_DELAY_SCALE", "RULEBOT_RULES_PATH",
   "RULEBOT_RULES_URL", "RULEBOT_HOST", "RULEBOT_PORT", "RULEBOT_LOG_LEVEL",
   "HF_API_TOKEN", "RULEBOT_ASSISTANT_TOKEN", "RULEBOT_ASSISTANT_URL",
   "RULEBOT_ASSISTANT_MODEL"]

/-- The settings with all that the environment overrules. Of the two variables
for the token the second one counts. -/
def overrideAll (environment : Environment) (config : Config) : Except Failure Config := do
  let set := override environment
  let config ← set "RULEBOT_TICK_INTERVAL_MS" readInteger withTickInterval config
  let config ← set "RULEBOT_SPEECH_DELAY_SCALE" readFloat withSpeechDelayScale config
  let config ← set "RULEBOT_RULES_PATH" asText withRulesPath config
  let config ← set "RULEBOT_RULES_URL" asText withRulesAddress config
  let config ← set "RULEBOT_HOST" asText withHost config
  let config ← set "RULEBOT_PORT" readInteger withPort config
  let config ← set "RULEBOT_LOG_LEVEL" asText withLogLevel config
  let config ← set "HF_API_TOKEN" asText takeToken config
  let config ← set "RULEBOT_ASSISTANT_TOKEN" asText takeToken config
  let config ← set "RULEBOT_ASSISTANT_URL" asText takeAddress config
  set "RULEBOT_ASSISTANT_MODEL" asText takeModel config

/-- Loads the settings from a file, if there is one, and the environment. -/
def load (file : Option Text) (environment : Environment) : Except Failure Loaded := do
  let loaded ← match file with
    | some text => ofFile text
    | none => .ok ⟨{}, none⟩
  return { loaded with config := ← overrideAll environment loaded.config }

/-! Log levels. -/

/-- The levels that have a name. -/
def logLevels : List (Text × Int) :=
  [("CRITICAL", 50), ("FATAL", 50), ("ERROR", 40), ("WARNING", 30), ("WARN", 30),
   ("INFO", 20), ("DEBUG", 10), ("NOTSET", 0)]

/-- The level for a name in any case; an unknown name stands for the level of
information. Two names belong to something that is no level. -/
def logLevel (name : Text) : Except Failure Int :=
  let name := Text.upper name
  if name = "BASIC_FORMAT" then .error .notANumber
  else if name = "_STYLES" then .error .wrongType
  else
    match logLevels.find? fun (other, _) => other == name with
    | some (_, level) => .ok level
    | none => .ok 20

/-- Sets up the log with the level for a name. A log that was set up before stays as it is. -/
def setUpLog (isSetUp : Bool) : Json → Except Failure Unit
  | .string points => if isSetUp then .ok () else discard (logLevel points.toText)
  | _ => .error .notOffered

end RobotRules.Config
