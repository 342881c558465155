import RobotRules.Engine
import RobotRules.Proofs.Chat.Request
import RobotRules.Proofs.Loop.Course
import RobotRules.Proofs.Rule.Bundled

/-! A session of the engine with its default settings of the loop, all of its capabilities
and the rules that come with it. Its loop is started; after that the robot hears its name
and utterances, time passes, and the loop ticks, in any order. -/

namespace RobotRules

/-- The replies that are left after some of them were given. -/
def Replies.drop (replies : Replies) (count : Nat) : Replies :=
  (fun replies => (Replies.next replies).2)^[count] replies

theorem Replies.drop_succ (replies : Replies) (count : Nat) :
    replies.drop (count + 1) = (replies.drop count).next.2 :=
  Function.iterate_succ_apply' _ _ _

/-- The last reply is given again and again. -/
theorem Replies.drop_last (last : Reply) (count : Nat) : Replies.drop [last] count = [last] := by
  induction count with
  | zero => rfl
  | succ count induction =>
      rw [drop_succ, induction]
      rfl

/-- What may differ from one session to another. -/
structure Session where
  config : Config
  locations : List Text
  installedApps : List Text
  keepsLocations : Bool
  replies : Replies
  foreground : Foreground

/-- What happens in a session. -/
inductive Happening where
  /-- The robot hears its name. -/
  | wakeUp
  | hear (text : Text) (reported : Option Text) (detection : Language.Detection)
  /-- The clock is set to a time, which may be an earlier one. -/
  | clock (now : Int)
  | tick

def Engine.undergo (engine : Engine) : Happening → Engine
  | .wakeUp => (engine.act Event.wakeUp).2
  | .hear text reported detection => (engine.hear text reported detection).2
  | .clock now => { engine with world := { engine.world with clock := now } }
  | .tick => engine.tick

/-- The engine whose loop begins, just before the first tick. -/
def Engine.begun (engine : Engine) : Engine :=
  let engine := engine.seed
  let (loop, log) := engine.loop.begin
  Engine.recordAll log { engine with loop := loop }

theorem Engine.start_of_idle (engine : Engine) (idle : engine.loop.phase = .idle) :
    engine.start = .ok engine.begun.tick := by
  rw [start, idle, begun]

namespace Session

/-- The engine before its loop is started. -/
def engine (session : Session) : Engine :=
  ⟨World.fresh session.config
      (Robot.idle (session.locations.map .text) session.installedApps session.keepsLocations)
      session.replies,
    Loop.idle {} session.foreground Rule.bundledText⟩

/-- The engine whose loop begins, just before the first tick. -/
def opened (session : Session) : Engine := session.engine.begun

theorem start_engine (session : Session) : session.engine.start = .ok session.opened.tick :=
  session.engine.start_of_idle rfl

/-- The engine after some happenings. -/
def after (session : Session) (happenings : List Happening) : Engine :=
  happenings.foldl Engine.undergo session.opened

/-! The texts that are spoken, and the pauses that it takes to speak them. -/

/-- What the chat service answers after it gave some of its replies. -/
def answer (session : Session) (count : Nat) (question : Text) (lines : List Line) :
    Except Failure Text :=
  (Chat.ask (.ofConfig session.config.assistant) question (lines.map Line.turn)
    (session.replies.drop count)).1

/-- The texts of the rules, and what the assistant says for want of an answer. -/
def fixedTexts : List Text :=
  [Bundled.greeting, "Okay", "On my way", "Looking up", "Going home", Assistant.unavailable,
    Assistant.noQuestion]

/-- The places in one sentence. -/
def placesText (session : Session) : Text :=
  if session.locations.isEmpty then Places.noneSaved else Text.join ", " session.locations

/-- The texts that may be spoken in a session. -/
inductive Speaks (session : Session) : Text → Prop
  | fixed {text : Text} : text ∈ fixedTexts → Speaks session text
  | places : Speaks session session.placesText
  | answer {count : Nat} {question : Text} {lines : List Line} {text : Text} :
      session.answer count question lines = .ok text → Speaks session text

/-- The pauses for speaking a text are short enough to be made. -/
def CanSpeak (session : Session) (text : Text) : Prop :=
  ∀ milliseconds ∈ [100, Speech.estimate text],
    Speech.canPause milliseconds session.config.robot.speechDelayScale = true

end Session

/-- What the rules go by: three parameters, and the conversation that the robot shows. -/
structure Mind where
  state : Value
  heard : Value
  destination : Value
  lines : List Line

def World.mind (world : World) : Mind :=
  ⟨world.memory.read Memory.interactionState, world.memory.read Memory.lastHeard,
    world.memory.read (.text "destination"), world.robot.messages⟩

/-- The interaction waits for something to happen. -/
def Mind.AtRest (mind : Mind) : Prop :=
  mind.state = .text "listening" ∨ mind.state = .text "idle"

namespace Bundled

/-- The rules that answer an utterance: the first that its text asks for, and the driving
that follows when a place was taken down. -/
def handler (utterance : Text) : List Rule :=
  if Pattern.matchesText destinationPattern utterance then [depart, drive]
  else if Pattern.matchesText "*locations*" utterance then [namePlaces]
  else if Pattern.matchesText "look up" utterance || Pattern.matchesText "head up" utterance then
    [lookUp]
  else if Pattern.matchesText "go home" utterance then [goHome]
  else [consult]

end Bundled

namespace Engine

/-- The rules that fire in the next tick. -/
def firing (engine : Engine) : List Rule :=
  engine.loop.fired World.host engine.loop.rules engine.world

/-- The next tick comes to its end and leaves the interaction at rest. It answers the
utterance that was heard last by one handler if that was not answered yet, and else by none;
and nothing is left to be done after it. A drive has a place to go to, and at most one question
is sent to the chat service: the conversation as it stands, which ends in the utterance. -/
structure Answers (engine : Engine) : Prop where
  atRest : engine.tick.world.mind.AtRest
  completed : ∃ entries, engine.tick.world.log = engine.world.log ++ entries ∧
    ∀ entry ∈ entries, entry.channel ≠ Loop.channel
  done : engine.tick.loop.queue = []
  answered : engine.world.mind.state = .text "asrReceived" →
    ∃ utterance, engine.world.mind.heard = .text utterance ∧
      engine.firing = Bundled.handler utterance
  silent : engine.world.mind.state ≠ .text "asrReceived" →
    engine.firing = [] ∨ engine.firing = [Bundled.greet]
  driven : engine.firing = [Bundled.depart, Bundled.drive] → ∃ told name,
    engine.tick.world.robot.actions = engine.world.robot.actions ++ told ∧
      ¬Text.isBlank name = true ∧ RobotAction.goTo name false none ∈ told
  asked : ∃ requests, engine.tick.world.requests = engine.world.requests ++ requests ∧
    requests.length ≤ 1 ∧ ∀ request ∈ requests, ∃ utterance lines,
      engine.world.mind.heard = .text utterance ∧
        engine.world.memory.turns = (lines ++ [Line.user utterance]).map Line.turn ∧
        Chat.member? "messages" request.body = .ok (.list
          ((Line.system Chat.standardInstructions :: lines ++ [Line.user utterance]).map
            Line.message))

end Engine

end RobotRules
