import RobotRules.Proofs.Session.Ticks

/-! Every utterance is answered once. At every moment of a session the interaction is about to
greet, at rest, or about to answer an utterance that stands at the end of the conversation;
and every tick that finds it so leaves it at rest. -/

namespace RobotRules

/-- The rules can go on from here: an utterance that is still to be answered stands at the
end of the conversation. -/
inductive Mind.Poised (mind : Mind) : Prop
  | active : mind.state = .text "Active" → mind.Poised
  | atRest : mind.AtRest → mind.Poised
  | received {utterance : Text} : mind.state = .text "asrReceived" →
      mind.heard = .text utterance → mind.lines.getLast? = some (Line.user utterance) →
      mind.Poised

namespace Session

open Bundled

variable {session : Session} {mind mind' : Mind} {world : World}

/-! What happens between the ticks. -/

section Events

variable (sound : Sound session mind world)

include sound

theorem does_askRecognizer {method : Text} {operation : Operation}
    (found : (Capability.recognition false).operation? method = some operation)
    {arguments : List Value} {value : Value}
    (run : Does session (operation.run "ASR" arguments) world value mind [] []) :
    Does session (Event.askRecognizer? method arguments) world (some value) mind [] [] := by
  have member : Capability.recognition false ∈ World.defaults := by simp [World.defaults]
  rcases sound.equipped _ member with ⟨current, registered, operations⟩
  have offered : (world.capability? Event.recognizer).bind (Capability.operation? method) =
      some operation := by
    have same : world.capability? Event.recognizer = some current := registered
    rw [same, Option.bind_some, Capability.operation?, operations]
    exact found
  unfold Event.askRecognizer?
  refine Does.get ?_
  rw [offered]
  exact run.bind fun sound => .pure sound _

theorem exists_does_isListening : ∃ listening,
    Does session (Speech.isListening "ASR") world (.boolean listening) mind [] [] := by
  unfold Speech.isListening
  cases registered : world.capability? "ASR" with
  | none => exact ⟨false, .get (by rw [registered]; exact .pure sound _)⟩
  | some capability =>
      cases capability with
      | recognition listening => exact ⟨listening, .get (by rw [registered]; exact .pure sound _)⟩
      | _ => exact ⟨false, .get (by rw [registered]; exact .pure sound _)⟩

theorem does_writeState (state : Text) :
    Does session (World.write Memory.interactionState (.text state)) world ()
      { mind with state := .text state } [] [] := by
  rw [← Mind.write_state]
  exact does_write sound (by simp) rfl

/-- The robot pays heed to its name unless it listens anyway. -/
theorem exists_does_wakeUp (poised : mind.Poised) : ∃ heeded mind', mind'.Poised ∧
    Does session Event.wakeUp world heeded mind' [] [] := by
  have found : (Capability.recognition false).operation? "isListening" = some .isListening := rfl
  rcases exists_does_isListening sound with ⟨listening, does⟩
  have asked : Does session (Event.askRecognizer? "isListening" []) world
      (some (.boolean listening)) mind [] [] := does_askRecognizer sound found does
  unfold Event.wakeUp
  cases listening with
  | true => exact ⟨false, mind, poised, asked.bind fun sound => .pure sound _⟩
  | false =>
      exact ⟨true, _, .active rfl, asked.bind fun sound =>
        (does_writeState sound _).bind fun sound => .pure sound _⟩

theorem does_hush : Does session (Event.askRecognizer? "setListeningState" [.boolean false]) world
    (some .absent) mind [] [] := by
  have found : (Capability.recognition false).operation? "setListeningState" =
      some .setListening := rfl
  exact does_askRecognizer sound found (does_setListening sound _)

/-- A text that was heard is noted, and added to the conversation. -/
theorem does_hear {text : Text} (nonempty : text.isEmpty = false) (language : Text) :
    Does session (Event.hear text language) world ()
      { mind.addLine (Line.user text) with
        state := .text "asrReceived"
        heard := .text text } [] [.finishConversation] := by
  have writeHeard : ∀ {world mind}, Sound session mind world →
      Does session (World.write Memory.lastHeard (.text text)) world ()
        { mind with heard := .text text } [] [] := fun sound => by
    rw [← Mind.write_heard]
    exact does_write sound (by simp) rfl
  have writeLanguage : ∀ {world mind}, Sound session mind world →
      Does session (World.write Memory.lastLanguage (.text language)) world () mind [] [] :=
    fun {world mind} sound => by
      have does := does_write sound (by simp : "asrLanguage".toList ≠ "conversationHistory".toList)
        (rfl : (Value.text language).isWritable = true)
      rwa [Mind.write_language] at does
  unfold Event.hear
  refine (does_hush sound).bind fun sound => ?_
  rw [nonempty]
  refine (does_addLine sound "user" text).bind fun sound => ?_
  refine (writeHeard sound).bind fun sound => ?_
  refine (writeLanguage sound).bind fun sound => ?_
  exact (does_writeState sound "asrReceived").bind fun sound => does_tell sound _

/-- What was heard is the last line of the conversation until it is answered. -/
theorem exists_does_hear (poised : mind.Poised) (text language : Text) : ∃ mind' told,
    mind'.Poised ∧ Does session (Event.hear text language) world () mind' [] told := by
  cases empty : text.isEmpty with
  | true =>
      refine ⟨mind, [.finishConversation], poised, ?_⟩
      unfold Event.hear
      refine (does_hush sound).bind fun sound => ?_
      rw [empty]
      exact does_tell sound _
  | false =>
      refine ⟨_, _, .received rfl rfl ?_, does_hear sound empty language⟩
      exact List.getLast?_concat

end Events

/-! A tick. -/

/-- What the firing rules, the requests and the actions of a tick have to do with what the
rules went by. -/
structure Handles (mind : Mind) (fired : List Rule) (requests : List Chat.Request)
    (told : List RobotAction) : Prop where
  answered : mind.state = .text "asrReceived" →
    ∃ utterance, mind.heard = .text utterance ∧ fired = handler utterance
  silent : mind.state ≠ .text "asrReceived" → fired = [] ∨ fired = [greet]
  driven : fired = [depart, drive] →
    ∃ name, ¬Text.isBlank name = true ∧ RobotAction.goTo name false none ∈ told
  one : requests.length ≤ 1
  asked : ∀ request ∈ requests, ∃ utterance lines, mind.heard = .text utterance ∧
    mind.lines = lines ++ [Line.user utterance] ∧
    Chat.member? "messages" request.body = .ok (.list
      ((Line.system Chat.standardInstructions :: mind.lines).map Line.message))

theorem state_ne_of_atRest (rest : mind.AtRest) : mind.state ≠ .text "asrReceived" := by
  rcases rest with listening | idle
  · rw [listening, Ne, Value.text.injEq]
    simp
  · rw [idle, Ne, Value.text.injEq]
    simp

theorem handler_ne_drive {utterance : Text}
    (unmatched : ¬Pattern.matchesText destinationPattern utterance = true) :
    handler utterance ≠ [depart, drive] := by
  rw [handler, if_neg unmatched]
  split_ifs <;> simp

section Ticks

variable {loop : Loop} (settings : loop.settings = {})
  (canSpeak : ∀ text, session.Speaks text → session.CanSpeak text)
  (chat : ∀ count question lines failure,
    session.answer count question lines = .error failure → ∃ error, failure = .chat error)
  (sound : Sound session mind world)

include settings canSpeak sound chat

/-- Exactly one handler answers an utterance that was heard. -/
theorem exists_completes_received {utterance : Text} (state : mind.state = .text "asrReceived")
    (heard : mind.heard = .text utterance)
    (last : mind.lines.getLast? = some (Line.user utterance)) :
    ∃ mind' fired requests told, mind'.AtRest ∧ Handles mind fired requests told ∧
      Completes session loop rules world fired mind' requests told := by
  have noGreet : greet.condition.holds World.host world = .ok false world :=
    holds_stateIs_received sound state (by simp)
  have answered : ∀ {fired}, fired = handler utterance → mind.state = .text "asrReceived" →
      ∃ utterance, mind.heard = .text utterance ∧ fired = handler utterance :=
    fun isHandler _ => ⟨utterance, heard, isHandler⟩
  by_cases matched : Pattern.matchesText destinationPattern utterance = true
  · rcases exists_completes_depart settings canSpeak sound state heard matched with
      ⟨name, mind', told, visible, idle, drives, course⟩
    have isHandler : [depart, drive] = handler utterance := by rw [handler, if_pos matched]
    exact ⟨mind', _, [], told, .inr idle, ⟨answered isHandler, fun other => absurd state other,
      fun _ => ⟨name, visible, drives⟩, by simp, by simp⟩, .skip noGreet course⟩
  · rcases exists_completes_others settings canSpeak sound state heard chat last matched with
      ⟨mind', requests, told, idle, one, messages, course⟩
    have lines : mind.lines = mind.lines.dropLast ++ [Line.user utterance] :=
      (List.dropLast_append_getLast? _ last).symm
    exact ⟨mind', _, requests, told, .inr idle, ⟨answered rfl, fun other => absurd state other,
      fun isDrive => absurd isDrive (handler_ne_drive matched), one, fun request member =>
        ⟨utterance, mind.lines.dropLast, heard, lines, messages request member⟩⟩,
      .skip noGreet course⟩

theorem exists_completes (poised : mind.Poised) : ∃ mind' fired requests told, mind'.AtRest ∧
    Handles mind fired requests told ∧
    Completes session loop rules world fired mind' requests told := by
  cases poised with
  | active state =>
      have different : mind.state ≠ .text "asrReceived" := by
        rw [state, Ne, Value.text.injEq]
        simp
      exact ⟨_, [greet], [], _, .inl rfl, ⟨fun received => absurd received different,
        fun _ => .inr rfl, by simp, by simp, by simp⟩,
        completes_active settings canSpeak sound state⟩
  | atRest rest =>
      have different := state_ne_of_atRest rest
      have course : Completes session loop rules world [] mind [] [] := by
        rcases rest with listening | idle
        · exact completes_of_rest sound listening (.inl rfl) (List.Subset.refl _)
        · exact completes_of_rest sound idle (.inr rfl) (List.Subset.refl _)
      exact ⟨mind, [], [], [], rest, ⟨fun received => absurd received different,
        fun _ => .inl rfl, by simp, by simp, by simp⟩, course⟩
  | received state heard last =>
      exact exists_completes_received settings canSpeak chat sound state heard last

end Ticks

/-! The whole session. -/

/-- The loop holds the rules in a world of the session, and they can go on from there. -/
structure Ready (session : Session) (engine : Engine) : Prop where
  settings : engine.loop.settings = {}
  rules : engine.loop.rules = Bundled.rules
  parsed : engine.loop.isPending = false
  queue : engine.loop.queue = []
  world : ∃ mind, mind.Poised ∧ Sound session mind engine.world

section Runs

variable {engine : Engine}

/-- A world that follows while the loop is left alone. -/
theorem Ready.of_leads (ready : Ready session engine) {mind : Mind} {told : List RobotAction}
    {after : World} (poised : mind.Poised)
    (leads : Leads session engine.world mind [] told after) :
    Ready session { engine with world := after } :=
  ⟨ready.settings, ready.rules, ready.parsed, ready.queue, mind, poised, leads.sound⟩

theorem ready_act {α : Type} (ready : Ready session engine) {action : World.Action α} {result : α}
    {mind : Mind} {told : List RobotAction} (poised : mind.Poised)
    (does : Does session action engine.world result mind [] told) :
    Ready session (engine.act action).2 := by
  rcases does with ⟨after, done, leads⟩
  rw [Engine.act, done]
  exact ready.of_leads poised leads

/-- The loop begins with the rules in force, and with the interaction about to greet. -/
theorem opened_eq (session : Session) : session.opened =
    ⟨{ session.engine.world with
        memory := Memory.empty.write World.startOfTime Memory.interactionState (.text "Active") },
      { session.engine.loop with
        rules := Bundled.rules
        isPending := false
        phase := .running }⟩ := by
  have parsed : session.engine.loop.parse =
      ({ session.engine.loop with rules := Bundled.rules, isPending := false }, []) := by
    have text : Rule.parseAll session.engine.loop.text = (Bundled.rules, []) :=
      parseAll_bundledText
    rw [Loop.parse, text]
  have begins : session.engine.seed.loop.begin =
      ({ session.engine.loop with
        rules := Bundled.rules
        isPending := false
        phase := .running }, []) := by
    have seeded : session.engine.seed.loop = session.engine.loop := rfl
    rw [seeded, Loop.begin, parsed]
  rw [opened, Engine.begun, begins]
  rfl

theorem sound_opened (session : Session) :
    Sound session ⟨.text "Active", .absent, .absent, []⟩ session.opened.world := by
  rw [opened_eq]
  constructor
  case equipped =>
    simp only [World.defaults, List.forall_mem_cons, List.not_mem_nil, false_implies,
      implies_true, and_true]
    exact ⟨⟨.speech, rfl, rfl⟩, ⟨.recognition false, rfl, rfl⟩, ⟨.head, rfl, rfl⟩,
      ⟨.motion .stationary, rfl, rfl⟩, ⟨.places, rfl, rfl⟩, ⟨.system, rfl, rfl⟩,
      ⟨.assistant, rfl, rfl⟩⟩
  case replies => exact ⟨0, rfl⟩
  case legible => exact ⟨rfl, rfl, rfl⟩
  all_goals rfl

theorem ready_opened (session : Session) : Ready session session.opened := by
  have sound := sound_opened session
  rw [opened_eq] at sound ⊢
  exact ⟨rfl, rfl, rfl, rfl, _, .active rfl, sound⟩

variable (canSpeak : ∀ text, session.Speaks text → session.CanSpeak text)
  (chat : ∀ count question lines failure,
    session.answer count question lines = .error failure → ∃ error, failure = .chat error)

include canSpeak chat

/-- A tick answers what is to be answered, and the next one can follow. -/
theorem answers_of_ready (ready : Ready session engine) :
    engine.Answers ∧ Ready session engine.tick := by
  rcases ready.world with ⟨mind, poised, sound⟩
  rcases exists_completes ready.settings canSpeak chat sound poised with
    ⟨mind', fired, requests, told, rest, handles, after, passes, leads⟩
  rw [← ready.rules] at passes
  have ticked : engine.tick = ⟨after, { engine.loop with ticks := engine.loop.ticks + 1 }⟩ := by
    rw [Engine.tick, Loop.tick_of_passes ready.parsed passes]
  have firing : engine.firing = fired := passes.fired
  have isMind := sound.mind
  rw [ticked]
  refine ⟨?_, ready.settings, ready.rules, ready.parsed, ready.queue, mind', .atRest rest,
    leads.sound⟩
  constructor
  case atRest => rwa [ticked, leads.sound.mind]
  case completed => rw [ticked]; exact leads.log
  case done => rw [ticked]; exact ready.queue
  case answered => rw [firing, isMind]; exact handles.answered
  case silent => rw [firing, isMind]; exact handles.silent
  case driven =>
    rw [firing, ticked]
    intro isDrive
    rcases handles.driven isDrive with ⟨name, visible, drives⟩
    exact ⟨told, name, leads.told, visible, drives⟩
  case asked =>
    rw [ticked, isMind]
    refine ⟨requests, leads.requests, handles.one, fun request member => ?_⟩
    rcases handles.asked request member with ⟨utterance, lines, heard, ends, messages⟩
    rw [ends] at messages
    exact ⟨utterance, lines, heard, by rw [sound.turns, ends], messages⟩

theorem ready_undergo (ready : Ready session engine) (happening : Happening) :
    Ready session (engine.undergo happening) := by
  cases happening with
  | wakeUp =>
      rcases ready.world with ⟨mind, poised, sound⟩
      rcases exists_does_wakeUp sound poised with ⟨_, _, poised', does⟩
      exact ready_act ready poised' does
  | hear text reported detection =>
      rcases ready.world with ⟨mind, poised, sound⟩
      rcases exists_does_hear sound poised text _ with ⟨_, _, poised', does⟩
      exact ready_act ready poised' does
  | clock now =>
      rcases ready.world with ⟨mind, poised, sound⟩
      exact ⟨ready.settings, ready.rules, ready.parsed, ready.queue, mind, poised,
        sound.of_eq rfl rfl rfl rfl rfl rfl⟩
  | tick => exact (answers_of_ready canSpeak chat ready).2

theorem ready_after (happenings : List Happening) : Ready session (session.after happenings) := by
  have fold : ∀ {engine}, Ready session engine →
      Ready session (happenings.foldl Engine.undergo engine) := by
    induction happenings with
    | nil => exact id
    | cons happening rest induction =>
        exact fun ready => induction (ready_undergo canSpeak chat ready happening)
  exact fold (ready_opened session)

end Runs

/-- After the loop was started, and whatever happened then, the next tick answers what is to
be answered, as long as the pauses for what is spoken can be made and the chat service says
something or fails as it may. -/
theorem answers_each_utterance (session : Session)
    (canSpeak : ∀ text, session.Speaks text → session.CanSpeak text)
    (chat : ∀ count question lines failure,
      session.answer count question lines = .error failure → ∃ error, failure = .chat error) :
    session.engine.start = .ok session.opened.tick ∧
      ∀ happenings, (session.after happenings).Answers :=
  ⟨session.start_engine, fun happenings =>
    (answers_of_ready canSpeak chat (ready_after canSpeak chat happenings)).1⟩

section Chatty

/-- With the standard settings and a token, and a chat service that always says hello. -/
def chatty : Session where
  config := { assistant := { token := "token" } }
  locations := ["home base"]
  installedApps := []
  keepsLocations := false
  replies := [.response 200
    "\x7b\"choices\": [\x7b\"message\": \x7b\"content\": \"Hello\"\x7d\x7d]\x7d"]
  foreground := .inline

theorem exists_reaches_chatty : ∃ address,
    (Chat.Client.ofConfig chatty.config.assistant).Reaches address ∧
      Chat.read address chatty.replies.next.1 = .ok "Hello" := by
  refine ⟨⟨"https", [], "router.huggingface.co", none, "/v1/chat/completions", none, none⟩,
    ⟨by decide +kernel, by decide +kernel, ?_, ?_, ?_, _, rfl⟩, ?_⟩ <;>
  · rw [← Result.toOption_eq_some_iff]
    decide +kernel

theorem answer_chatty (count : Nat) (question : Text) (lines : List Line) :
    chatty.answer count question lines = .ok "Hello" := by
  rcases exists_reaches_chatty with ⟨address, reaches, hello⟩
  rw [answer, Chat.ask_eq_read reaches, chatty, Replies.drop_last]
  exact hello

theorem canSpeak_chatty (text : Text) (speaks : chatty.Speaks text) : chatty.CanSpeak text := by
  have possible : ∀ text ∈ chatty.placesText :: "Hello".toList :: fixedTexts,
      ∀ milliseconds ∈ [100, Speech.estimate text],
        Speech.canPause milliseconds chatty.config.robot.speechDelayScale = true := by
    decide +kernel
  have among : text ∈ chatty.placesText :: "Hello".toList :: fixedTexts := by
    cases speaks with
    | fixed member => exact .tail _ (.tail _ member)
    | places => exact .head _
    | answer hello =>
        rw [answer_chatty, Except.ok.injEq] at hello
        exact .tail _ (hello ▸ .head _)
  exact possible text among

theorem answers_each_utterance_chatty :
    (∀ text, chatty.Speaks text → chatty.CanSpeak text) ∧
      (∀ count question lines, chatty.answer count question lines = .ok "Hello") ∧
      chatty.engine.start = .ok chatty.opened.tick ∧
      ∀ happenings, (chatty.after happenings).Answers := by
  refine ⟨canSpeak_chatty, answer_chatty, ?_⟩
  refine answers_each_utterance chatty canSpeak_chatty fun count question lines failure failed => ?_
  rw [answer_chatty] at failed
  cases failed

end Chatty

section Stalling

/-- The settings ask for pauses that are longer than any. -/
def stalling : Session where
  config := { robot := { speechDelayScale := .integer (10 ^ 400) } }
  locations := ["home base"]
  installedApps := []
  keepsLocations := false
  replies := []
  foreground := .inline

/-- The scale is a finite number, but the pause before the greeting cuts the pass over the rules
short. -/
theorem not_answers_stalling :
    stalling.config.robot.speechDelayScale = .integer (10 ^ 400) ∧
      (∀ count question lines,
        stalling.answer count question lines = .error (.chat .unavailable)) ∧
      stalling.engine.start = .ok stalling.opened.tick ∧
      stalling.opened.tick.world.log = [⟨.error, Loop.channel,
        "Rule evaluation aborted for this tick: OverflowError"⟩] ∧
      ¬(stalling.after []).Answers := by
  have aborted : stalling.opened.tick.world.log = [⟨.error, Loop.channel,
      "Rule evaluation aborted for this tick: OverflowError"⟩] := by
    rw [opened_eq]
    decide +kernel
  have nothing : stalling.opened.world.log = [] := by
    rw [opened_eq]
    rfl
  refine ⟨rfl, fun _ _ _ => rfl, start_engine stalling, aborted, fun answers => ?_⟩
  rcases answers.completed with ⟨entries, logged, foreign⟩
  rw [after, List.foldl_nil, nothing, aborted, List.nil_append] at logged
  subst logged
  exact foreign _ (List.mem_singleton_self _) rfl

end Stalling

end Session

end RobotRules
