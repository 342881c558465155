import Mathlib.Data.List.Nodup
import RobotRules.Proofs.Capability.Equipment
import RobotRules.Proofs.Capability.Places
import RobotRules.Proofs.Evaluation.Steps
import RobotRules.Proofs.Memory.Conversation
import RobotRules.Proofs.Session.Basic

/-! What the operations that the rules call do to the world of a session. The settings, the
places and the capabilities stay; the conversation that memory keeps is the one that the
robot shows; and what is added to the log does not come from the loop. -/

namespace RobotRules

namespace Mind

variable {mind : Mind}

/-- What the rules go by when a parameter was written. -/
def write (name : Text) (value : Value) (mind : Mind) : Mind :=
  { mind with
    state := if name = "interactionState".toList then value else mind.state
    heard := if name = "lastAsrResult".toList then value else mind.heard
    destination := if name = "destination".toList then value else mind.destination }

theorem write_state (value : Value) (mind : Mind) :
    mind.write "interactionState" value = { mind with state := value } := by
  rw [write, if_pos rfl, if_neg (by simp), if_neg (by simp)]

theorem write_heard (value : Value) (mind : Mind) :
    mind.write "lastAsrResult" value = { mind with heard := value } := by
  rw [write, if_neg (by simp), if_pos rfl, if_neg (by simp)]

theorem write_language (value : Value) (mind : Mind) :
    mind.write "asrLanguage" value = mind := by
  rw [write, if_neg (by simp), if_neg (by simp), if_neg (by simp)]

theorem write_destination (value : Value) (mind : Mind) :
    mind.write "destination" value = { mind with destination := value } := by
  rw [write, if_neg (by simp), if_neg (by simp), if_pos rfl]

/-- What the rules go by when a line was added to the conversation. -/
def addLine (line : Line) (mind : Mind) : Mind := { mind with lines := mind.lines ++ [line] }

/-- What the rules go by when a text was spoken; blank ones are passed over. -/
def say (text : Text) (mind : Mind) : Mind :=
  if Text.isBlank text then mind else mind.addLine (.assistant text)

theorem heard_say (text : Text) (mind : Mind) : (mind.say text).heard = mind.heard := by
  rw [say]
  split_ifs <;> rfl

/-- What the rules go by can be read by them. -/
structure IsLegible (mind : Mind) : Prop where
  state : mind.state.isWritable = true
  heard : mind.heard.isWritable = true
  destination : mind.destination.isWritable = true

theorem IsLegible.write (legible : mind.IsLegible) {value : Value}
    (writable : value.isWritable = true) (name : Text) : (mind.write name value).IsLegible := by
  constructor
  all_goals
    dsimp only [Mind.write]
    split_ifs
  · exact writable
  · exact legible.state
  · exact writable
  · exact legible.heard
  · exact writable
  · exact legible.destination

theorem destination_say (text : Text) (mind : Mind) :
    (mind.say text).destination = mind.destination := by
  rw [say]
  split_ifs <;> rfl

end Mind

namespace Session

/-- A world of a session, in which the rules go by `mind`. The rest stays, whatever happens
in the session. -/
structure Sound (session : Session) (mind : Mind) (world : World) : Prop where
  config : world.config = session.config
  locations : world.robot.locations = session.locations.map .text
  equipped : ∀ fresh ∈ World.defaults, ∃ current,
    world.capability? fresh.name = some current ∧ current.operations = fresh.operations
  turns : world.memory.turns = mind.lines.map Line.turn
  replies : ∃ count, world.replies = session.replies.drop count
  legible : mind.IsLegible
  mind : world.mind = mind

/-- One world follows another in a session: in between the requests were sent, the robot was
told to do the actions, and the loop reported nothing. -/
structure Leads (session : Session) (before : World) (mind : Mind)
    (requests : List Chat.Request) (told : List RobotAction) (after : World) : Prop where
  sound : Sound session mind after
  requests : after.requests = before.requests ++ requests
  told : after.robot.actions = before.robot.actions ++ told
  log : ∃ entries, after.log = before.log ++ entries ∧
    ∀ entry ∈ entries, entry.channel ≠ Loop.channel

/-- An action succeeds with a result and leads on to another world. -/
def Does {α : Type} (session : Session) (action : World.Action α) (before : World) (result : α)
    (mind : Mind) (requests : List Chat.Request) (told : List RobotAction) : Prop :=
  ∃ after, action before = .ok result after ∧ Leads session before mind requests told after

variable {session : Session} {mind mind' : Mind} {before after world : World}
  {requests requests' : List Chat.Request} {told told' : List RobotAction}

theorem Sound.of_eq (sound : Sound session mind before) (config : after.config = before.config)
    (locations : after.robot.locations = before.robot.locations)
    (registry : after.registry = before.registry) (memory : after.memory = before.memory)
    (messages : after.robot.messages = before.robot.messages)
    (replies : after.replies = before.replies) : Sound session mind after where
  config := config.trans sound.config
  locations := locations.trans sound.locations
  equipped := by
    unfold World.capability?
    rw [registry]
    exact sound.equipped
  turns := by rw [memory, sound.turns]
  replies := by
    rw [replies]
    exact sound.replies
  legible := sound.legible
  mind := by rw [← sound.mind, World.mind, World.mind, memory, messages]

/-- A change after which nothing was sent, told or logged. -/
theorem Leads.quiet (sound : Sound session mind after)
    (requests : after.requests = before.requests)
    (told : after.robot.actions = before.robot.actions) (log : after.log = before.log) :
    Leads session before mind [] [] after where
  sound := sound
  requests := by rw [requests, List.append_nil]
  told := by rw [told, List.append_nil]
  log := ⟨[], by rw [log, List.append_nil], by simp⟩

theorem Leads.trans (first : Leads session before mind requests told world)
    (second : Leads session world mind' requests' told' after) :
    Leads session before mind' (requests ++ requests') (told ++ told') after where
  sound := second.sound
  requests := by rw [second.requests, first.requests, List.append_assoc]
  told := by rw [second.told, first.told, List.append_assoc]
  log := by
    rcases first.log with ⟨entries, added, foreign⟩
    rcases second.log with ⟨entries', added', foreign'⟩
    refine ⟨entries ++ entries', by rw [added', added, List.append_assoc], fun entry member => ?_⟩
    exact (List.mem_append.mp member).elim (foreign entry) (foreign' entry)

/-! Actions in a row. -/

section Rows

variable {α β : Type}

theorem Does.pure (sound : Sound session mind world) (result : α) :
    Does session (pure result) world result mind [] [] :=
  ⟨world, rfl, .quiet sound rfl rfl rfl⟩

/-- Looking at the world changes nothing. -/
theorem Does.get {next : World → World.Action β} {result : β}
    (does : Does session (next world) world result mind requests told) :
    Does session (get >>= next) world result mind requests told := does

theorem Does.bind {first : World.Action α} {next : α → World.Action β} {value : α} {result : β}
    (one : Does session first world value mind requests told)
    (two : ∀ {between}, Sound session mind between →
      Does session (next value) between result mind' requests' told') :
    Does session (first >>= next) world result mind' (requests ++ requests') (told ++ told') := by
  rcases one with ⟨between, done, leads⟩
  rcases two leads.sound with ⟨after, finished, leadsOn⟩
  refine ⟨after, ?_, leads.trans leadsOn⟩
  rw [Act.bind_of_ok next done]
  exact finished

end Rows

/-! Single changes of the world. -/

section Changes

variable (sound : Sound session mind world)

include sound

theorem does_tell (action : RobotAction) :
    Does session (World.tell action) world () mind [] [action] :=
  ⟨_, rfl, sound.of_eq rfl rfl rfl rfl rfl rfl, (List.append_nil _).symm, rfl, [],
    (List.append_nil _).symm, by simp⟩

/-- What is reported on another channel than that of the loop. -/
theorem does_record {entry : LogEntry} (foreign : entry.channel ≠ Loop.channel) :
    Does session (modify (World.record entry)) world () mind [] [] :=
  ⟨_, rfl, sound.of_eq rfl rfl rfl rfl rfl rfl, (List.append_nil _).symm,
    (List.append_nil _).symm, [entry], rfl, by simpa using foreign⟩

theorem does_warn {channel : Text} (foreign : channel ≠ Loop.channel) (message : Text) :
    Does session (World.warn channel message) world () mind [] [] :=
  does_record sound foreign

theorem does_reportError {channel : Text} (foreign : channel ≠ Loop.channel) (message : Text) :
    Does session (World.reportError channel message) world () mind [] [] :=
  does_record sound foreign

theorem does_pause {milliseconds : Nat}
    (possible : Speech.canPause milliseconds session.config.robot.speechDelayScale = true) :
    Does session (Speech.pause milliseconds) world () mind [] [] := by
  rw [← sound.config] at possible
  rcases World.exists_pause possible with ⟨pauses, paused⟩
  exact ⟨_, paused, .quiet (sound.of_eq rfl rfl rfl rfl rfl rfl) rfl rfl rfl⟩

theorem does_addLine (role text : Text) :
    Does session (World.addLine role text) world () (mind.addLine (role, text)) [] [] := by
  have legible : (mind.addLine (role, text)).IsLegible :=
    ⟨sound.legible.state, sound.legible.heard, sound.legible.destination⟩
  refine ⟨_, rfl, .quiet ⟨sound.config, sound.locations, sound.equipped, ?_, sound.replies,
    legible, ?_⟩ rfl rfl rfl⟩
  · rw [Memory.turns_addTurn, sound.turns, Mind.addLine, List.map_append]
    rfl
  · rw [← sound.mind, World.mind, World.mind, Mind.addLine, Mind.mk.injEq]
    exact ⟨Memory.read_addTurn_of_ne (by simp) _ _ _ _,
      Memory.read_addTurn_of_ne (by simp) _ _ _ _,
      Memory.read_addTurn_of_ne (by simp) _ _ _ _, rfl⟩

/-- The rules go by what was written from then on. -/
theorem does_write {name : Text} (different : name ≠ "conversationHistory".toList)
    {value : Value} (writable : value.isWritable = true) :
    Does session (World.write (.text name) value) world () (mind.write name value) [] [] := by
  refine ⟨_, rfl, .quiet ⟨sound.config, sound.locations, sound.equipped, ?_, sound.replies,
    sound.legible.write writable name, ?_⟩ rfl rfl rfl⟩
  · rw [Memory.turns_write_of_ne (fun same => different (Value.text.inj same)), sound.turns,
      Mind.write]
  · rw [← sound.mind, World.mind, World.mind, Mind.write]
    simp only [Memory.interactionState, Memory.lastHeard, Memory.read_write_text]

/-- A capability changes what it keeps track of, but not what it can do. -/
theorem does_setCapability {fresh capability : Capability} (member : fresh ∈ World.defaults)
    (operations : capability.operations = fresh.operations) :
    Does session (World.setCapability fresh.name capability) world () mind [] [] := by
  refine ⟨_, rfl, .quiet ⟨sound.config, sound.locations, ?_, sound.turns, sound.replies,
    sound.legible, sound.mind⟩ rfl rfl rfl⟩
  intro other inDefaults
  rw [World.capability?, World.capability?_install]
  split_ifs with same
  · have distinct : (World.defaults.map Capability.name).Nodup := by
      decide +kernel
    have isFresh := List.inj_on_of_nodup_map distinct member inDefaults same
    exact ⟨capability, rfl, operations.trans (congrArg Capability.operations isFresh)⟩
  · exact sound.equipped other inDefaults

end Changes

/-! The operations that the rules call. -/

/-- What the robot is told for speaking a text. -/
def spoken (text : Text) : List RobotAction :=
  if Text.isBlank text then [] else [.finishConversation, .speak text]

section Operations

variable (sound : Sound session mind world)

include sound

theorem does_speak {text : Text} (possible : session.CanSpeak text) :
    Does session (Speech.speak (.text text)) world .absent (mind.say text) []
      (spoken text) := by
  unfold Speech.speak spoken Mind.say
  split_ifs with blank
  · simpa [blank] using Does.pure sound Value.absent
  · simp only [blank]
    refine (does_addLine sound "assistant" text).bind fun sound => ?_
    refine (does_tell sound _).bind fun sound => ?_
    refine (does_pause sound (possible _ (by simp))).bind fun sound => ?_
    refine (does_tell sound _).bind fun sound => ?_
    exact (does_pause sound (possible _ (by simp))).bind fun sound => .pure sound _

theorem does_setListening (listening : Value) :
    Does session (Speech.setListening "ASR" listening) world .absent mind [] [] := by
  have member : Capability.recognition false ∈ World.defaults := by simp [World.defaults]
  have set : Does session (World.setCapability "ASR" (.recognition listening.asBool)) world ()
      mind [] [] := does_setCapability sound member rfl
  unfold Speech.setListening
  refine set.bind fun sound => ?_
  have marked : Does session (modify fun world =>
      { world with robot := { world.robot with listening := listening.asBool } }) _ () mind [] [] :=
    ⟨_, rfl, .quiet (sound.of_eq rfl rfl rfl rfl rfl rfl) rfl rfl rfl⟩
  exact marked.bind fun sound => .pure sound _

theorem does_listen : Does session (Speech.listen "ASR") world .absent mind []
    [.finishConversation, .askQuestion " "] := by
  unfold Speech.listen
  refine (does_setListening sound _).bind fun sound => ?_
  refine (does_tell sound _).bind fun sound => ?_
  exact (does_tell sound _).bind fun sound => .pure sound _

theorem does_tiltHead (degrees : Int) :
    Does session (Movement.tiltHead degrees) world .absent mind [] [.tilt degrees] := by
  have tilted : Does session (modify fun world =>
      { world with robot := { world.robot with headAngle := degrees } }) world () mind [] [] :=
    ⟨_, rfl, .quiet (sound.of_eq rfl rfl rfl rfl rfl rfl) rfl rfl rfl⟩
  unfold Movement.tiltHead
  refine tilted.bind fun sound => ?_
  exact (does_tell sound _).bind fun sound => .pure sound _

theorem does_setMotion (motion : Motion) :
    Does session (Movement.setMotion "Move" motion) world () mind [] [] := by
  have member : Capability.motion .stationary ∈ World.defaults := by simp [World.defaults]
  exact does_setCapability sound member rfl

theorem does_goHome : Does session (Movement.goHome "Move" .absent) world .absent mind []
    [.goTo Robot.homeBase false none] := by
  unfold Movement.goHome
  refine (does_setMotion sound _).bind fun sound => ?_
  exact (does_tell sound _).bind fun sound => .pure sound _

theorem does_saved :
    Does session Places.saved world (session.locations.map .text) mind [] [] := by
  refine ⟨world, ?_, .quiet sound rfl rfl rfl⟩
  rw [← sound.locations]
  rfl

theorem does_isSaved (name : Text) : Does session (Places.isSaved name) world
    (decide (name ∈ session.locations.map Text.lower)) mind [] [] := by
  unfold Places.isSaved
  refine (does_saved sound).bind fun sound => ?_
  rw [Places.isAmong?_texts]
  exact .pure sound _

/-- A place with a name is driven to, saved or not. -/
theorem does_goTo {name : Text} (visible : ¬Text.isBlank name = true) :
    Does session (Movement.goTo "Move" (.text name) .absent (.boolean false)) world .absent mind
      [] [.goTo name false none] := by
  unfold Movement.goTo
  rw [Places.clean?_text visible]
  refine (does_saved sound).bind fun sound => ?_
  refine (does_isSaved sound (Text.lower (Text.trim name))).bind fun sound => ?_
  have departs : ∀ {between}, Sound session mind between → Does session (do
      Movement.setMotion "Move" .navigating
      World.tell (.goTo name false none)
      pure Value.absent) between .absent mind [] [.goTo name false none] := fun sound => by
    refine (does_setMotion sound _).bind fun sound => ?_
    exact (does_tell sound _).bind fun sound => .pure sound _
  cases decide (Text.lower (Text.trim name) ∈ session.locations.map Text.lower) with
  | true => exact departs sound
  | false =>
      have foreign : Movement.channel ≠ Loop.channel := by decide +kernel
      exact (does_warn sound foreign _).bind fun sound => departs sound

theorem does_describeAll : Does session Places.describeAll world (.text session.placesText)
    mind [] [] := by
  have names := Places.mapM_nameOf?_texts session.locations
  unfold Places.describeAll placesText
  refine (does_saved sound).bind fun sound => ?_
  cases places : session.locations with
  | nil => exact .pure sound _
  | cons place places =>
      rw [places] at names
      rw [List.map_cons] at names ⊢
      dsimp only
      rw [names]
      exact .pure sound _

end Operations

/-! Questions to the assistant. -/

section Questions

/-- A question takes one reply at most. -/
theorem exists_drop_ask (client : Chat.Client) (question : Text) (turns : List Value)
    (replies : Replies) :
    ∃ count, (Chat.ask client question turns replies).2.2 = replies.drop count := by
  unfold Chat.ask
  split_ifs
  · exact ⟨0, rfl⟩
  · split
    · exact ⟨0, rfl⟩
    · exact ⟨1, rfl⟩

/-- The request of a question is the one that the client makes of it. -/
theorem request_of_ask {client : Chat.Client} {question : Text} {turns : List Value}
    {replies : Replies} {request : Chat.Request}
    (sent : (Chat.ask client question turns replies).2.1 = some request) :
    client.request question turns = .ok request := by
  unfold Chat.ask at sent
  split_ifs at sent
  split at sent
  · cases sent
  · rename_i formed
    rw [formed, Option.some.inj sent]

theorem turnsBefore_of_last {question : Text} {lines : List Line}
    (last : lines.getLast? = some (.user question)) :
    Assistant.turnsBefore question (lines.map Line.turn) = lines.dropLast.map Line.turn := by
  have same : (Line.user question).turn.same
      (Memory.turn (.text "user") (.text question)) = true := by
    exact Value.same_self rfl
  rw [Assistant.turnsBefore, List.getLast?_map, last, Option.map_some]
  dsimp only
  rw [if_pos same, List.map_dropLast]

/-- With the question at its end, the conversation is asked as it stands. -/
theorem asking_dropLast {instructions question : Text} {lines : List Line}
    (last : lines.getLast? = some (.user question)) :
    Chat.asking instructions question lines.dropLast = .system instructions :: lines := by
  rw [Chat.asking, List.cons_append, List.dropLast_append_getLast? _ last]

/-- A question takes a reply and leaves a note of its request, whatever comes of it. -/
theorem does_complete (sound : Sound session mind world) (question : Text) (turns : List Value)
    {result : Except Failure Text} {request : Option Chat.Request} {replies : Replies}
    (asked : Chat.ask (.ofConfig world.config.assistant) question turns world.replies =
      (result, request, replies)) :
    Does session (World.attempt (Assistant.complete question turns)) world result mind
      request.toList [] := by
  refine ⟨{ world with replies := replies, requests := world.requests ++ request.toList }, ?_,
    ⟨⟨sound.config, sound.locations, sound.equipped, sound.turns, ?_, sound.legible,
      sound.mind⟩, rfl, (List.append_nil _).symm, [], (List.append_nil _).symm, by simp⟩⟩
  · rw [World.attempt, Assistant.complete, Act.get_bind]
    dsimp only
    rw [asked]
    cases result <;> rfl
  · rcases sound.replies with ⟨given, left⟩
    rcases exists_drop_ask (.ofConfig world.config.assistant) question turns world.replies with
      ⟨taken, isLeft⟩
    refine ⟨taken + given, ?_⟩
    rw [asked, left] at isLeft
    exact isLeft.trans (Function.iterate_add_apply _ _ _ _).symm

/-- The question that was heard last is asked after the conversation before it, if it asks
something at all. The answer or an apology can be spoken. -/
theorem exists_does_ask (sound : Sound session mind world)
    (chat : ∀ count question lines failure,
      session.answer count question lines = .error failure → ∃ error, failure = .chat error)
    {question : Text} (last : mind.lines.getLast? = some (Line.user question)) :
    ∃ answer requests, Does session (Assistant.ask (.text question)) world (.text answer) mind
        requests [] ∧
      session.Speaks answer ∧ requests.length ≤ 1 ∧
      ∀ request ∈ requests, Chat.member? "messages" request.body = .ok (.list
        ((Line.system Chat.standardInstructions :: mind.lines).map Line.message)) := by
  have foreign : Assistant.channel ≠ Loop.channel := by decide +kernel
  unfold Assistant.ask
  by_cases blank : Text.isBlank question = true
  · refine ⟨Assistant.noQuestion, [], ?_, .fixed (by simp [fixedTexts]), by simp, by simp⟩
    simp only [blank, if_true]
    exact (does_reportError sound foreign _).bind fun sound => .pure sound _
  · rcases sound.replies with ⟨count, left⟩
    rcases asked : Chat.ask (.ofConfig world.config.assistant) question
      (mind.lines.dropLast.map Line.turn) world.replies with ⟨result, request, replies⟩
    have completed := does_complete sound question _ asked
    rw [sound.config] at asked
    have isAnswer : session.answer count question mind.lines.dropLast = result := by
      rw [answer, ← left]
      exact congrArg Prod.fst asked
    have messages : ∀ sent ∈ request.toList, Chat.member? "messages" sent.body = .ok (.list
        ((Line.system Chat.standardInstructions :: mind.lines).map Line.message)) := by
      intro sent member
      have noted := (congrArg (fun asked => asked.2.1) asked).trans (Option.mem_toList.mp member)
      rw [← asking_dropLast last]
      exact Chat.member?_messages_of_request (request_of_ask noted)
    rcases result with failure | text
    · rcases chat count question _ failure isAnswer with ⟨error, isChat⟩
      refine ⟨Assistant.unavailable, request.toList, ?_, .fixed (by simp [fixedTexts]), ?_,
        messages⟩
      · simp only [blank]
        refine Does.get ?_
        rw [sound.turns, turnsBefore_of_last last, ← List.append_nil request.toList]
        rw [isChat] at completed
        exact completed.bind fun sound => (does_warn sound foreign _).bind fun sound =>
          .pure sound _
      · cases request <;> simp
    · refine ⟨text, request.toList, ?_, .answer isAnswer, ?_, messages⟩
      · simp only [blank]
        refine Does.get ?_
        rw [sound.turns, turnsBefore_of_last last, ← List.append_nil request.toList]
        exact completed.bind fun sound => .pure sound _
      · cases request <;> simp

end Questions

end Session

end RobotRules
