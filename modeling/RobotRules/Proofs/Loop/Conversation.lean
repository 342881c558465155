import RobotRules.Proofs.Chat.Request
import RobotRules.Proofs.Loop.Upkeep
import RobotRules.Proofs.Memory.Conversation

/-! The conversation in the life of an engine. The lines that the robot shows, the conversation
that memory keeps, what the robot speaks and what it heard never drift apart, as long as the
conversation is not written by rules. -/

namespace RobotRules

open Act (reached Keeps)

/-- The text that the robot is told to speak. -/
def RobotAction.spoken? : RobotAction → Option Text
  | .speak text => some text
  | _ => none

theorem RobotAction.spoken?_of_other {action : RobotAction}
    (other : Part.ofAction? action ≠ some .conversation) : action.spoken? = none := by
  cases action with
  | speak => exact absurd rfl other
  | _ => rfl

/-- What the robot showed as said by someone, in order. -/
def Robot.said (speaker : Text) (robot : Robot) : List Text :=
  (robot.messages.filter fun line => line.1 == speaker).map Prod.snd

theorem Robot.said_showLine (speaker role text : Text) (robot : Robot) :
    (robot.showLine role text).said speaker =
      robot.said speaker ++ if role = speaker then [text] else [] := by
  rw [said, said, showLine, List.filter_append, List.map_append]
  by_cases same : role = speaker <;> simp [same]

namespace World

/-- The robot shows the conversation that memory keeps. -/
structure Remembers (world : World) : Prop where
  shown : world.memory.turns = world.robot.messages.map Line.turn
  speakers : ∀ line ∈ world.robot.messages, line.1 = "user".toList ∨ line.1 = "assistant".toList
  grows : world.memory.GrowsByTurns

/-- What is shown and remembered is what was heard and what is spoken. -/
structure Converses (heard : List Text) (world : World) : Prop extends Remembers world where
  /-- The pause before speaking can be made. -/
  paced : Speech.canPause 100 world.config.robot.speechDelayScale = true
  spoken : world.robot.said "assistant" = world.robot.actions.filterMap RobotAction.spoken?
  heard : world.robot.said "user" = heard

variable {heard : List Text} {world before after : World}

namespace Remembers

theorem of_eq (remembers : Remembers before) (memory : after.memory = before.memory)
    (messages : after.robot.messages = before.robot.messages) : Remembers after where
  shown := by rw [memory, messages, remembers.shown]
  speakers := messages ▸ remembers.speakers
  grows := memory ▸ remembers.grows

theorem addLine {role : Text} (remembers : Remembers world)
    (speaker : role = "user".toList ∨ role = "assistant".toList) (text : Text) :
    Remembers (reached (addLine role text world)) := by
  have messages : (reached (World.addLine role text world)).robot.messages =
      world.robot.messages ++ [(role, text)] := rfl
  constructor
  · rw [messages, List.map_append, ← remembers.shown]
    exact Memory.turns_addTurn _ _ _ _
  · rw [messages, List.forall_mem_append]
    exact ⟨remembers.speakers, by simpa using speaker⟩
  · exact remembers.grows.addTurn _ _ _

end Remembers

namespace Converses

theorem of_untouched (holds : Converses heard before)
    (untouched : Untouched .conversation before after) : Converses heard after := by
  rcases untouched.stays with ⟨config, memory, messages⟩
  refine { holds.toRemembers.of_eq memory messages with
    paced := config ▸ holds.paced, spoken := ?_, heard := ?_ }
  · rw [untouched.filterMap_actions fun _ => RobotAction.spoken?_of_other, ← holds.spoken,
      Robot.said, Robot.said, messages]
  · rw [← holds.heard, Robot.said, Robot.said, messages]

theorem keeps_of_spares {α : Type} {action : Action α} (spares : Spares .conversation action) :
    Keeps (Converses heard) action := fun world holds => holds.of_untouched (spares world)

theorem keeps_write {name : Value} (different : name ≠ Memory.conversation) (value : Value) :
    Keeps (Converses heard) (write name value) := by
  refine (keeps_of_spares (spares_of_reads (reads_needName name))).bind fun _ world holds => ?_
  exact { holds with
    shown := (Memory.turns_write_of_ne different _ _ _).trans holds.shown
    grows := holds.grows.write_of_ne different _ _ }

/-- What the user says is heard. -/
theorem addLine_user (holds : Converses heard world) (text : Text) :
    Converses (heard ++ [text]) (reached (addLine "user" text world)) where
  toRemembers := holds.toRemembers.addLine (.inl rfl) text
  paced := holds.paced
  spoken := by
    refine (Robot.said_showLine _ _ _ _).trans ?_
    rw [if_neg (by decide), List.append_nil, holds.spoken]
    rfl
  heard := by
    refine (Robot.said_showLine _ _ _ _).trans ?_
    rw [if_pos rfl, holds.heard]

/-- What the robot shows as its own is spoken. -/
theorem addLine_assistant {paused : World} {text : Text} (holds : Converses heard world)
    (untouched : Untouched .conversation (reached (addLine "assistant" text world)) paused) :
    Converses heard { paused with robot := paused.robot.act (.speak text) } := by
  rcases untouched.stays with ⟨config, memory, messages⟩
  have remembers := holds.toRemembers.addLine (.inr rfl) text
  have said (speaker : Text) : (paused.robot.act (.speak text)).said speaker =
      world.robot.said speaker ++ if "assistant".toList = speaker then [text] else [] := by
    rw [← Robot.said_showLine, Robot.said, Robot.said]
    exact congrArg (fun lines : List Line =>
      (lines.filter fun line => line.1 == speaker).map Prod.snd) messages
  refine { remembers.of_eq memory messages with
    paced := config ▸ holds.paced, spoken := ?_, heard := ?_ }
  · have actions := untouched.filterMap_actions fun _ => RobotAction.spoken?_of_other
    rw [said, if_pos rfl, holds.spoken, Robot.act, List.filterMap_append, actions]
    rfl
  · rw [said, if_neg (by decide), List.append_nil, holds.heard]

theorem exists_pause (paced : Speech.canPause 100 world.config.robot.speechDelayScale = true) :
    ∃ after, Speech.pause 100 world = .ok () after ∧ Untouched .conversation world after := by
  rcases World.exists_pause paced with ⟨pauses, paused⟩
  have untouched : Untouched .conversation world (reached (Speech.pause 100 world)) :=
    spares_pause 100 world
  rw [paused] at untouched
  exact ⟨_, paused, untouched⟩

/-- A text is shown, remembered and spoken, even if the pause after it fails. -/
theorem keeps_speak (text : Value) : Keeps (Converses heard) (Speech.speak text) := by
  intro world holds
  unfold Speech.speak
  split
  case h_2 => exact holds
  case h_1 characters =>
  split
  · exact holds
  -- the text is shown before the pause, so it is spoken only because the pause does not fail
  let hushed := reached (tell .finishConversation (reached (addLine "assistant" characters world)))
  have silent : Untouched .conversation (reached (addLine "assistant" characters world)) hushed :=
    spares_tell (by simp [Part.ofAction?]) _
  have paced : Speech.canPause 100 hushed.config.robot.speechDelayScale = true := holds.paced
  rcases exists_pause paced with ⟨paused, pauses, still⟩
  have told := holds.addLine_assistant (silent.trans still)
  have spoken : Keeps (Converses heard) (do
      Speech.pause (Speech.estimate characters)
      return Value.absent : Action Value) :=
    keeps_of_spares ((spares_pause _).bind fun _ => spares_pure _)
  change Converses heard (reached ((Speech.pause 100 >>= _) hushed))
  rw [Act.bind_of_ok _ pauses]
  exact spoken _ told

theorem keeps_run {operation : Operation} (receiver : Text) (arguments : List Value) :
    Keeps (Converses heard) (operation.run receiver arguments) := by
  cases operation with
  | speak =>
      rcases arguments with _ | ⟨text, _ | ⟨_, _⟩⟩
      · exact keeps_of_spares (spares_throw .argumentCount)
      · exact keeps_speak text
      · exact keeps_of_spares (spares_throw .argumentCount)
  | _ => exact keeps_of_spares (spares_run (by simp [Operation.touches]) receiver arguments)

end Converses

end World

/-- Is this a call that writes the conversation, or that forgets all parameters? -/
def Dispatch.rewrites : Dispatch → Bool
  | ⟨receiver, method, []⟩ => receiver == World.memoryReceiver && method == "reset".toList
  | ⟨receiver, method, [.text name, _]⟩ =>
    receiver == World.memoryReceiver && method == "setStateParam".toList &&
      name == "conversationHistory".toList
  | _ => false

/-- What is heard of a report, unless it is empty. -/
def Event.heard (text : Text) : List Text := if text.isEmpty then [] else [text]

namespace World

variable {heard : List Text}

namespace Converses

open Act (bind_of_ok)

theorem keeps_memory {method : Text} {operation : MemoryOperation} {arguments : List Value}
    (named : Apps.find? method MemoryOperation.all = some operation)
    (lawful : Dispatch.rewrites ⟨memoryReceiver, method, arguments⟩ = false) :
    Keeps (Converses heard) (operation.run arguments) := by
  have refused : Keeps (Converses heard) (throw .argumentCount : Action Value) :=
    keeps_of_spares (spares_throw _)
  cases operation with
  | read | previous => exact keeps_of_spares (spares_of_reads (reads_memory rfl arguments))
  | write =>
      have called : method = "setStateParam".toList := MemoryOperation.eq_name_of_find? named
      rcases arguments with _ | ⟨name, _ | ⟨value, _ | ⟨_, _⟩⟩⟩
      · exact refused
      · exact refused
      · have different : name ≠ Memory.conversation := by
          rintro rfl
          simp [Dispatch.rewrites, Memory.conversation, called] at lawful
        exact (keeps_write different value).bind fun _ => keeps_of_spares (spares_pure _)
      · exact refused
  | clearHistory =>
      rcases arguments with _ | ⟨_, _⟩
      · exact fun world holds => { holds with grows := .clearHistory world.memory }
      · exact refused
  | reset =>
      have called : method = "reset".toList := MemoryOperation.eq_name_of_find? named
      rcases arguments with _ | ⟨_, _⟩
      · simp [Dispatch.rewrites, called] at lawful
      · exact refused

theorem keeps_wakeUp : Keeps (Converses heard) Event.wakeUp := by
  refine (keeps_of_spares spares_isListening).bind fun listening => ?_
  split
  · exact keeps_of_spares (spares_pure _)
  · exact (keeps_write (Memory.text_ne_conversation (by decide)) _).bind fun _ =>
      keeps_of_spares (spares_pure _)

/-- A report is heard, shown and remembered, unless it is empty. -/
theorem hear {world : World} (holds : Converses heard world) (text language : Text) :
    Converses (heard ++ Event.heard text) (reached (Event.hear text language world)) := by
  rcases askRecognizer?_setListening world with ⟨asked, quiet, done, _⟩
  have deaf : Converses heard quiet := by
    have spares : Spares .conversation
        (Event.askRecognizer? "setListeningState" [.boolean false]) :=
      spares_askRecognizer? (by simp)
    have kept := keeps_of_spares spares world holds
    rwa [done] at kept
  have ended (heard : List Text) : Keeps (Converses heard) (tell .finishConversation) :=
    keeps_of_spares (spares_tell (by simp [Part.ofAction?]))
  unfold Event.hear
  rw [bind_of_ok _ done]
  cases text with
  | nil =>
      rw [show Event.heard [] = [] from rfl, List.append_nil]
      exact ended heard quiet deaf
  | cons first rest =>
      have noted : Keeps (Converses (heard ++ [first :: rest])) (do
          write Memory.lastHeard (.text (first :: rest))
          write Memory.lastLanguage (.text language)
          write Memory.interactionState (.text "asrReceived")
          tell .finishConversation) :=
        (keeps_write (Memory.text_ne_conversation (by decide)) _).bind fun _ =>
          (keeps_write (Memory.text_ne_conversation (by decide)) _).bind fun _ =>
            (keeps_write (Memory.text_ne_conversation (by decide)) _).bind fun _ => ended _
      have shown : addLine "user" (first :: rest) quiet =
        .ok () (reached (addLine "user" (first :: rest) quiet)) := rfl
      change Converses (heard ++ [first :: rest])
        (reached ((addLine "user" (first :: rest) >>= fun _ => _) quiet))
      rw [bind_of_ok _ shown]
      exact noted _ (deaf.addLine_user (first :: rest))

end Converses

theorem maintains_converses (heard : List Text) :
    Maintains (fun call => call.rewrites = false) (fun _ => True) fun _ => Converses heard where
  upholds := ⟨fun _ _ _ _ _ => trivial, fun _ _ _ _ => trivial, fun _ _ _ => trivial⟩
  operation _ _ arguments _ _ world _ holds := Converses.keeps_run _ arguments world holds
  memory named _ lawful _ world _ holds := Converses.keeps_memory named lawful world holds
  record entry _ _ holds := holds.of_untouched (spares_record entry _)

end World

namespace Engine

open World (Converses)

/-- What is heard in a step. -/
def Step.heard : Step → List Text
  | .hear text _ _ => Event.heard text
  | _ => []

variable {engine : Engine} {heard : List Text} {steps : List Step}

theorem converses_step {step : Step} (lawful : ∀ call ∈ engine.calls step, call.rewrites = false)
    (holds : Converses heard engine.world) :
    Converses (heard ++ step.heard) (engine.step step).world := by
  have silent (nothing : step.heard = []) (holds : Converses heard (engine.step step).world) :
      Converses (heard ++ step.heard) (engine.step step).world := by
    rwa [nothing, List.append_nil]
  cases step with
  | hear text reported detection =>
      rw [Engine.step, hear, world_act]
      exact holds.hear text _
  | wakeUp =>
      refine silent rfl ?_
      rw [step, world_act]
      exact Converses.keeps_wakeUp _ holds
  | start =>
      refine silent rfl (kept_launch ?_ ?_ holds)
      · exact fun entry world holds => holds.of_untouched (World.spares_record entry world)
      · exact Converses.keeps_write (Memory.text_ne_conversation (by decide)) _
  | evaluate | invoke | tick | runOldest =>
      exact silent rfl (kept_of_isWork (World.maintains_converses heard) rfl trivial holds lawful).2
  | _ => exact silent rfl (holds.of_untouched (untouched_step (by simp [Step.touches]) engine))

theorem converses_run (lawful : ∀ call ∈ engine.callsOf steps, call.rewrites = false)
    (holds : Converses heard engine.world) :
    Converses (heard ++ steps.flatMap Step.heard) (engine.run steps).world := by
  induction steps generalizing engine heard with
  | nil => rwa [List.flatMap_nil, List.append_nil]
  | cons step rest induction =>
      rw [callsOf, List.forall_mem_append] at lawful
      rw [List.flatMap_cons, ← List.append_assoc]
      exact induction lawful.2 (converses_step lawful.1 holds)

/-- In the life of an engine, whatever rules do and whatever fails, the robot shows just the
conversation that memory keeps: what it heard, and what it speaks. -/
theorem converses_of_fresh (config : Config) (locations : List Value) (apps : List Text)
    (keepsLocations : Bool) (replies : Replies) (loop : Loop)
    (paced : Speech.canPause 100 config.robot.speechDelayScale = true)
    (lawful : ∀ call ∈ callsOf ⟨.fresh config (.idle locations apps keepsLocations) replies, loop⟩
      steps, call.rewrites = false) :
    Converses (steps.flatMap Step.heard)
      (Engine.run ⟨.fresh config (.idle locations apps keepsLocations) replies, loop⟩
        steps).world := by
  have silent : Converses [] (.fresh config (.idle locations apps keepsLocations) replies) := {
    shown := rfl, speakers := nofun, grows := ⟨List.isChain_nil, nofun⟩
    paced := paced, spoken := rfl, heard := rfl }
  exact converses_run lawful silent

section Chatting

/-- A rule says what was heard last. -/
def chatting : Engine :=
  ⟨.fresh {} (.idle [] [] false) [],
    Loop.idle {} .deferred
      "[\"a\" == \"a\" --> TTS.speak(Memory.getStateParam(\"lastAsrResult\"))]"⟩

/-- There is one tick. An empty text is not heard, and a blank one is not spoken. -/
def chat : List Step :=
  [.start, .wakeUp, .hear "Hello" none none, .tick, .evaluate (.call "Memory" "clearHistory" []),
    .hear [] none none, .hear "Who?" none none, .invoke "TTS" "speak" [.text " "]]

theorem converses_chat :
    Speech.canPause 100 chatting.world.config.robot.speechDelayScale = true ∧
      (∀ call ∈ chatting.callsOf chat, call.rewrites = false) ∧
      (chatting.run chat).world.robot.messages =
        [⟨"user", "Hello"⟩, ⟨"assistant", "Hello"⟩, ⟨"user", "Who?"⟩] ∧
      Converses ["Hello", "Who?"] (chatting.run chat).world := by
  have paced : Speech.canPause 100 chatting.world.config.robot.speechDelayScale = true := by
    decide +kernel
  have lawful : ∀ call ∈ chatting.callsOf chat, call.rewrites = false := by decide +kernel
  have converses : Converses ["Hello", "Who?"] (chatting.run chat).world :=
    converses_of_fresh {} [] [] false [] chatting.loop paced lawful
  exact ⟨paced, lawful, by decide +kernel, converses⟩

/-- The settings ask for pauses that are longer than any. -/
def pausing : Engine :=
  ⟨.fresh { robot := { speechDelayScale := .integer (10 ^ 400) } } (.idle [] [] false) [],
    Loop.idle {} .deferred "[]"⟩

/-- The scale is a finite number, but the pause before the speech fails, after the text is shown
and remembered. -/
theorem not_converses_pausing :
    pausing.world.config.robot.speechDelayScale = .integer (10 ^ 400) ∧
      (∀ call ∈ pausing.callsOf [.evaluate (.call "TTS" "speak" [.literal "Hello"])],
        call.rewrites = false) ∧
      (pausing.run [.evaluate (.call "TTS" "speak" [.literal "Hello"])]).world.robot.said
        "assistant" = ["Hello"] ∧
      (pausing.run [.evaluate (.call "TTS" "speak" [.literal "Hello"])]).world.robot.actions =
        [.finishConversation] :=
  ⟨rfl, by decide +kernel, by decide +kernel, by decide +kernel⟩

end Chatting

end Engine

end RobotRules
