import RobotRules.Check.Arguments
import RobotRules.Config.Environment
import RobotRules.Engine

/-! The command that checks rules. It reads a set of rules, writes what the
engine would load, and may try it out for some ticks on a robot that only takes
notes. -/

namespace RobotRules.Check

/-- What the command finds around it. -/
structure Surroundings where
  files : Files
  /-- The text of the settings file, if there is one. -/
  configFile : Option Text
  environment : Config.Environment
  /-- How the address of remote rules is found. -/
  locate : Service.Locator
  /-- The reply of the service that has them. -/
  rulesReply : Reply
  chatReplies : Replies
  /-- Whether the log was set up by the program that the command is part of. -/
  hasLog : Bool

/-- What the command writes, and the code it exits with. -/
structure Report where
  output : Text
  code : Nat
deriving DecidableEq, Repr

/-- The report that consists of lines. -/
def Report.ofLines (lines : List Text) (code : Nat) : Report :=
  ⟨Text.ofLines lines, code⟩

/-- What is written when help is asked for. -/
def helpLines : List String := [
  "usage: check_rules.py [-h] [--remote] [--render] [--ticks TICKS] [--asr ASR]",
  "                      [--log-level LOG_LEVEL]",
  "                      [path]",
  "",
  "Parse and dry-run rulebot rule text",
  "",
  "positional arguments:",
  "  path                  Rules file (defaults to the configured rules path)",
  "",
  "options:",
  "  -h, --help            show this help message and exit",
  "  --remote              Fetch the rules from the configured remote URL instead",
  "  --render              Print the parsed rules in normalized rule text",
  "  --ticks TICKS         Number of ticks to run against the simulated robot",
  "  --asr ASR             Speech input to feed before ticking",
  "  --log-level LOG_LEVEL",
  "                        Logging level"]

/-! Lines of the report. -/

/-- A line about rules. -/
def rulesLine (text : Text) : Text := "[Rules] " ++ text

def errorLine (text : Text) : Text := rulesLine ("ERROR: " ++ text)

/-- How many arrows of a text belong to no rule. -/
def skipped (text : Text) (rules : List Rule) : Int :=
  (Text.count arrow text : Int) - rules.length

def parsedLine (text : Text) (rules : List Rule) : Text :=
  rulesLine ("Parsed " ++ Number.writeNat rules.length ++ " rules (" ++
    Number.writeInteger (skipped text rules) ++ " skipped)")

/-- The rules one by one with their numbers. -/
def numbered (number : Nat) : List Rule → List Text
  | [] => []
  | rule :: rest =>
    ("  " ++ Number.writeNat number ++ ". " ++ rule.render) ::
      numbered (number + 1) rest

/-! The source of the rules. -/

/-- The path of the file that is read where no remote rules are asked for. -/
def rulesPath? (arguments : Arguments) (config : Config) : Except Failure Text :=
  match arguments.path with
  | some (c :: rest) => Rule.path? (.text (c :: rest))
  | _ => Rule.path? config.rules.path.toValue

/-- Where the rules are looked for, the line that says so, and the rules or why
there are none. -/
def readSource (arguments : Arguments) (config : Config)
    (surroundings : Surroundings) : Except Failure (Text × Except Text Text) := do
  if arguments.remote then
    let address := config.rules.address.toValue
    let line := rulesLine ("Fetching " ++ address.display ++ "...")
    match Rule.fetch surroundings.locate address surroundings.rulesReply with
    | .ok text => return (line, .ok text)
    | .error (.fetch error) => return (line, .error error.message)
    | .error failure => .error failure
  else
    let path ← rulesPath? arguments config
    let line := rulesLine ("Reading " ++ path)
    match ← Rule.readFile path surroundings.files with
    | .ok text => return (line, .ok text)
    | .error error => return (line, .error (error.message path))

/-- The path of the one file that the command reads for its arguments, if it
reads any. -/
def fileToRead? (texts : List Text) (configFile : Option Text)
    (environment : Config.Environment) : Option Text :=
  match Arguments.read texts, Config.load configFile environment with
  | .check arguments, .ok loaded => (rulesPath? arguments loaded.config).toOption
  | _, _ => none

/-! The trial. -/

/-- The engine for a trial: nothing makes it pause, and every batch is run at
once. -/
def trialEngine (text : Text) (config : Config) (replies : Replies) : Engine :=
  let config := config.withSpeechDelayScale (.integer 0)
  let robot := Robot.idle (config.robot.locations.map Json.toValue) [] false
  { world := World.fresh config robot replies
    loop := Loop.idle config.loop .inline text }

/-- The language in which the trial hears a text. -/
def trialLanguage : Text := "en-US"

/-- The engine when the ticks begin: the state of the interaction is set, and
the text is heard that was asked for. -/
def prepared (asr : Option Text) (engine : Engine) : Engine :=
  let engine := engine.seed
  match asr with
  | some (c :: rest) => (engine.hear (c :: rest) (some trialLanguage) none).2
  | _ => engine

/-- The lines on one tick: the state of the interaction after it, and what the
robot was told in it. -/
def tickLines (number : Nat) (before after : Engine) : List Text :=
  let state := after.world.memory.read Memory.interactionState
  let actions := after.world.robot.actions.drop before.world.robot.actions.length
  ("[Tick " ++ Number.writeNat number ++ "] interactionState=" ++ state.write) ::
    actions.map fun action => "    robot: " ++ action.describe

/-- Runs ticks, and gives the lines on them. -/
def runTicks (number : Nat) (engine : Engine) : Nat → List Text × Engine
  | 0 => ([], engine)
  | count + 1 =>
    let next := engine.tick
    let (lines, last) := runTicks (number + 1) next count
    (tickLines number engine next ++ lines, last)

/-- The side of the finite numbers on which a number is. -/
def side : Value → Int
  | .float number =>
    if number.isInfinite then (if number.negative then -1 else 1) else 0
  | _ => 0

/-- A finite number as a fraction. -/
def fraction : Value → Int × Nat
  | .boolean truth => (truth.toInt, 1)
  | .integer number => (number, 1)
  | .float number => if number.isInfinite then (0, 1) else number.signedRatio
  | _ => (0, 1)

/-- Whether a name comes before another one, if both are texts or both numbers. A
NaN is not compared with any number. -/
def comesBefore : Value → Value → Bool
  | .text left, .text right => Text.before left right
  | .nan _, _ | _, .nan _ => false
  | left, right =>
    let (numerator, denominator) := fraction left
    let (numerator', denominator') := fraction right
    side left < side right ||
      (side left == side right && numerator * denominator' < numerator' * denominator)

/-- Names of different kinds have no order. A single name needs none. -/
def areComparable (names : List Value) : Bool :=
  names.length ≤ 1 || names.all (·.kind == .text) ||
    names.all fun name => name.kind == .number || name.kind == .boolean

/-- Puts a parameter among others that are in order, the last one in front. -/
def place (entry : Value × Value) : Named Value → Named Value
  | [] => [entry]
  | other :: rest =>
    if comesBefore entry.1 other.1 then other :: place entry rest
    else entry :: other :: rest

/-- The parameters in the order of their names. -/
def inOrder (state : Named Value) : Named Value :=
  (state.foldl (fun placed entry => place entry placed) []).reverse

/-- The parameters in the order of their names, if these have one. -/
def sortState (state : Named Value) : Except Failure (Named Value) :=
  if areComparable (state.map Prod.fst) then .ok (inOrder state) else .error .wrongType

example : inOrder [(.text "b", .absent), (.text "a", .absent)] =
    [(.text "a", .absent), (.text "b", .absent)] := rfl
example : areComparable [.text "a", .absent] = false := by decide

def stateLine (name value : Value) : Text :=
  "    " ++ name.display ++ " = " ++ value.write

/-- The lines on a trial. -/
def trialLines (text : Text) (config : Config) (asr : Option Text) (ticks : Nat)
    (replies : Replies) : Except Failure (List Text) := do
  let engine := prepared asr (trialEngine text config replies)
  let (lines, engine) := runTicks 1 engine ticks
  let (_, engine) := engine.act World.cleanup
  let state ← sortState engine.world.memory.current
  return lines ++ [rulesLine "Final state:"] ++
    state.map fun (name, value) => stateLine name value

/-! The command. -/

/-- Checks the rules that the arguments name. The log is set up first. -/
def check (arguments : Arguments) (surroundings : Surroundings) :
    Except Failure Report := do
  Config.setUpLog surroundings.hasLog (arguments.logLevel.elim .null .ofText)
  let loaded ← Config.load surroundings.configFile surroundings.environment
  let config := loaded.config
  let (line, source) ← readSource arguments config surroundings
  let lines := loaded.warning?.toList ++ [line]
  match source with
  | .error reason => return .ofLines (lines ++ [errorLine reason]) 1
  | .ok text =>
    let rules := (Rule.parseAll text).1
    let lines := lines ++ [parsedLine text rules]
    if rules.isEmpty then return .ofLines (lines ++ [errorLine "No valid rules"]) 1
    let lines := lines ++
      (if arguments.render then [Rule.renderAll rules] else numbered 1 rules)
    let some ticks := arguments.ticks | throw .wrongType
    if ticks ≤ 0 then return .ofLines lines 0
    let trial ← trialLines text config arguments.asr ticks.toNat surroundings.chatReplies
    return .ofLines (lines ++ trial) 0

/-- Does what the arguments of the command ask for. -/
def run (texts : List Text) (surroundings : Surroundings) : Except Failure Report :=
  match Arguments.read texts with
  | .refuse => .ok ⟨[], 2⟩
  | .showHelp => .ok (.ofLines (helpLines.map String.toList) 0)
  | .check arguments => check arguments surroundings

end RobotRules.Check
