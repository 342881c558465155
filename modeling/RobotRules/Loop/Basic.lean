import RobotRules.Config.Basic
import RobotRules.Failure
import RobotRules.Rule.Parser

/-! The interaction loop holds a rule text and the rules that were parsed from
it. New text is only held at first; it is parsed, and takes the place of the old
rules as a whole, when the loop starts or when the next tick begins. -/

namespace RobotRules

/-- What becomes of a loop: it is started and stopped at most once. -/
inductive Phase where
  | idle
  | running
  | stopped
deriving DecidableEq, Repr

def Phase.name : Phase → Text
  | .idle => "idle"
  | .running => "running"
  | .stopped => "stopped"

/-- Where the actions of rules that do not speak are run. -/
inductive Foreground where
  /-- At once, in the middle of the tick. -/
  | inline
  /-- Later, when the queue is drained. -/
  | deferred
  /-- Later, by a worker of the loop's own that retires with it. -/
  | own
deriving DecidableEq, Repr

/-- The actions of a rule that are to be run together. -/
abbrev Batch := List Expr

/-- An interaction loop. -/
structure Loop where
  settings : LoopConfig
  foreground : Foreground
  /-- The text handed over last. -/
  text : Text
  /-- Whether the text is still to be parsed. -/
  isPending : Bool
  /-- The rules in force. -/
  rules : List Rule
  phase : Phase
  /-- How many ticks there were. -/
  ticks : Nat
  /-- The batches that wait to be run, the oldest one first. -/
  queue : List Batch
  /-- Whether the worker has retired. -/
  isClosed : Bool

namespace Loop

/-- A loop that has not done anything yet. -/
def idle (settings : LoopConfig) (foreground : Foreground) (text : Text) : Loop :=
  { settings := settings
    foreground := foreground
    text := text
    isPending := true
    rules := []
    phase := .idle
    ticks := 0
    queue := []
    isClosed := false }

/-- Holds a new text. -/
def replace (text : Text) (loop : Loop) : Loop :=
  { loop with text := text, isPending := true }

/-- Has the held text parsed once more. -/
def requestReload (loop : Loop) : Loop := { loop with isPending := true }

/-- Parses the held text and puts its rules in force. -/
def parse (loop : Loop) : Loop × Log :=
  let (rules, log) := Rule.parseAll loop.text
  ({ loop with rules := rules, isPending := false }, log)

/-- Parses the held text if that is still to be done. -/
def reload (loop : Loop) : Loop × Log :=
  if loop.isPending then loop.parse else (loop, [])

/-- Starts an idle loop. -/
def begin (loop : Loop) : Loop × Log :=
  let (loop, log) := loop.parse
  ({ loop with phase := .running }, log)

/-- Stops a loop for good. A worker retires with the loop that ran it. -/
def stop (loop : Loop) : Loop :=
  { loop with
    phase := .stopped
    isClosed := loop.isClosed || (loop.phase == .running && loop.foreground == .own) }

/-- Whether an expression is a call that the settings name as speech. -/
def speaks (settings : LoopConfig) (action : Expr) : Bool :=
  match settings.speechReceiver.text?, settings.speechMethod.text? with
  | some receiver, some method => action.isCallTo receiver method
  | _, _ => false

/-- The time between ticks, in microseconds. -/
def interval? (settings : LoopConfig) : Except Failure Int :=
  let ofMilliseconds (time : Double) : Except Failure Int :=
    Failure.orOverflow time.toSeconds.toMicroseconds?
  match settings.tickInterval with
  | .integer time => Failure.orOverflow (Double.ofInt? time) >>= ofMilliseconds
  | .boolean truth => ofMilliseconds (.ofRatio false truth.toNat 1)
  | .float time => ofMilliseconds time
  | .nan => .error .notANumber
  | _ => .error .wrongType

end Loop

end RobotRules
