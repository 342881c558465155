import RobotRules.Proofs.Evaluation.Footprint
import RobotRules.Proofs.Pattern.Capture
import RobotRules.Proofs.Session.World

/-! What the rules that come with the engine do in a session: when their conditions hold, and
what their actions lead to. -/

namespace RobotRules.Session

open Bundled

variable {session : Session} {mind mind' : Mind} {world : World}
  {requests requests' : List Chat.Request} {told told' : List RobotAction}

/-! Calls of capabilities and of memory. -/

section Calls

variable (sound : Sound session mind world)

include sound

theorem resolve_eq {fresh : Capability} (member : fresh ∈ World.defaults) {method : Text}
    {operation : Operation} (found : fresh.operation? method = some operation) :
    World.resolve fresh.name method world = .ok (operation.run fresh.name) := by
  have other : ∀ capability ∈ World.defaults, capability.name ≠ World.memoryReceiver := by
    decide +kernel
  rcases sound.equipped fresh member with ⟨current, registered, operations⟩
  have offered : current.operation? method = some operation := by
    rw [← found, Capability.operation?, Capability.operation?, operations]
  rw [World.resolve, if_neg (other fresh member), registered]
  dsimp only
  rw [offered]

omit sound in
theorem does_evaluateAll {expr : Expr} {value : Value}
    (does : Does session (expr.evaluate World.host) world value mind requests told) :
    Does session (Expr.evaluateAll World.host [expr]) world [value] mind requests told := by
  rw [Expr.evaluateAll, Expr.evaluateAll, ← List.append_nil requests, ← List.append_nil told]
  exact does.bind fun sound => (Does.pure sound []).bind fun sound => .pure sound [value]

omit sound in
theorem Does.described {action : World.Action Value} {result : Value}
    (does : Does session action world result mind requests told)
    (writable : result.isWritable = true) :
    Does session (action >>= Expr.described) world result mind requests told := by
  rcases does with ⟨after, done, leads⟩
  refine ⟨after, ?_, leads⟩
  rw [Act.bind_of_ok _ done, Expr.described_of_isWritable writable]
  rfl

/-- A call evaluates its arguments and does the operation. -/
theorem does_call {fresh : Capability} (member : fresh ∈ World.defaults) {method : Text}
    {operation : Operation} (found : fresh.operation? method = some operation)
    {arguments : List Expr} {values : List Value} {result : Value}
    (evaluated : Does session (Expr.evaluateAll World.host arguments) world values mind requests
      told)
    (run : ∀ {between}, Sound session mind between →
      Does session (operation.run fresh.name values) between result mind' requests' told')
    (writable : result.isWritable = true) :
    Does session ((Expr.call fresh.name method arguments).evaluate World.host) world result mind'
      (requests ++ requests') (told ++ told') := by
  rw [Expr.evaluate]
  refine Does.get ?_
  have resolved : World.host.resolve fresh.name method world = .ok (operation.run fresh.name) :=
    resolve_eq sound member found
  rw [resolved]
  exact evaluated.bind fun sound => (run sound).described writable

/-- A call whose arguments change nothing. -/
theorem does_call_of_evaluated {fresh : Capability} (member : fresh ∈ World.defaults)
    {method : Text} {operation : Operation} (found : fresh.operation? method = some operation)
    {arguments : List Expr} {values : List Value} {result : Value}
    (evaluated : Expr.evaluateAll World.host arguments world = .ok values world)
    (run : Does session (operation.run fresh.name values) world result mind' requests told)
    (writable : result.isWritable = true) :
    Does session ((Expr.call fresh.name method arguments).evaluate World.host) world result mind'
      requests told := by
  rcases run.described writable with ⟨after, done, leads⟩
  refine ⟨after, ?_, leads⟩
  rw [Expr.evaluate_call_of_ok (resolve_eq sound member found), Act.bind_of_ok _ evaluated]
  exact done

/-- A call without arguments. -/
theorem does_command {fresh : Capability} (member : fresh ∈ World.defaults) {method : Text}
    {operation : Operation} (found : fresh.operation? method = some operation) {result : Value}
    (run : Does session (operation.run fresh.name []) world result mind' requests told)
    (writable : result.isWritable = true) :
    Does session ((Expr.call fresh.name method []).evaluate World.host) world result mind'
      requests told :=
  does_call_of_evaluated sound member found (by rw [Expr.evaluateAll]; rfl) run writable

end Calls

theorem resolve_memory {method : Text} {operation : MemoryOperation}
    (found : Apps.find? method MemoryOperation.all = some operation) (world : World) :
    World.host.resolve "Memory" method world = .ok operation.run := by
  have resolved : World.resolve "Memory" method world = .ok operation.run := by
    rw [World.resolve, if_pos (by rfl), found]
  exact resolved

/-- A legible parameter is read without any change. -/
theorem evaluate_reading {name : Text} {world : World} (legible : world.memory.Legible name) :
    (reading name).evaluate World.host world = .ok (world.memory.read (.text name)) world :=
  Expr.evaluate_read legible

section Actions

variable (sound : Sound session mind world)

include sound

theorem evaluate_heard : heard.evaluate World.host world = .ok mind.heard world := by
  have legible := sound.legible.heard
  rw [← sound.mind] at legible ⊢
  exact evaluate_reading legible

theorem does_heard : Does session (heard.evaluate World.host) world mind.heard mind [] [] :=
  ⟨world, evaluate_heard sound, .quiet sound rfl rfl rfl⟩

theorem does_destination : Does session ((reading "destination").evaluate World.host) world
    mind.destination mind [] [] := by
  refine ⟨world, ?_, .quiet sound rfl rfl rfl⟩
  have legible := sound.legible.destination
  rw [← sound.mind] at legible ⊢
  exact evaluate_reading legible

theorem does_saying {text : Expr} {characters : Text} (possible : session.CanSpeak characters)
    (does : Does session (text.evaluate World.host) world (.text characters) mind requests told) :
    Does session ((saying text).evaluate World.host) world .absent (mind.say characters)
      requests (told ++ spoken characters) := by
  have member : Capability.speech ∈ World.defaults := by simp [World.defaults]
  have found : Capability.speech.operation? "speak" = some .speak := rfl
  have called := does_call sound member found (does_evaluateAll does)
    (fun sound => does_speak sound possible) rfl
  rwa [List.append_nil] at called

omit sound in
theorem does_setting {name : Text} (different : name ≠ "conversationHistory".toList)
    {value : Expr} {written : Value}
    (does : Does session (value.evaluate World.host) world written mind [] []) :
    Does session ((setting name value).evaluate World.host) world .absent
      (mind.write name written) [] [] := by
  have resolved := resolve_memory (rfl :
    Apps.find? "setStateParam" MemoryOperation.all = some .write) world
  have writable : written.isWritable = true := by
    rcases does with ⟨after, done, _⟩
    exact Expr.isWritable_of_evaluate done
  have evaluated : Does session (Expr.evaluateAll World.host [.literal name, value]) world
      [.text name, written] mind [] [] := by
    rw [Expr.evaluateAll, Expr.evaluate]
    change Does session (do
      let values ← Expr.evaluateAll World.host [value]
      pure (Value.text name :: values)) world _ mind [] []
    exact (does_evaluateAll does).bind fun sound => .pure sound _
  rw [setting, Expr.evaluate]
  refine Does.get ?_
  rw [resolved]
  refine evaluated.bind fun sound => Does.described ?_ rfl
  exact (does_write sound different writable).bind fun sound => .pure sound _

theorem does_literal (text : Text) :
    Does session ((Expr.literal text).evaluate World.host) world (.text text) mind [] [] := by
  rw [Expr.evaluate]
  exact .pure sound _

theorem does_sayingLiteral {text : Text} (possible : session.CanSpeak text) :
    Does session ((saying (.literal text)).evaluate World.host) world .absent (mind.say text)
      [] (spoken text) :=
  does_saying sound possible (does_literal sound text)

theorem does_entering (state : Text) :
    Does session ((entering state).evaluate World.host) world .absent
      { mind with state := .text state } [] [] := by
  rw [← Mind.write_state]
  exact does_setting (by simp) (does_literal sound state)

end Actions

/-! What the actions of each rule lead to. -/

theorem does_runAll_nil (sound : Sound session mind world) :
    Does session (Expr.runAll World.host []) world () mind [] [] := by
  rw [Expr.runAll]
  exact .pure sound _

theorem does_runAll_cons {action : Expr} {actions : List Expr} {value : Value}
    (first : Does session (action.evaluate World.host) world value mind requests told)
    (rest : ∀ {between}, Sound session mind between →
      Does session (Expr.runAll World.host actions) between () mind' requests' told') :
    Does session (Expr.runAll World.host (action :: actions)) world () mind'
      (requests ++ requests') (told ++ told') := by
  rw [Expr.runAll]
  exact first.bind rest

section Rules

variable (sound : Sound session mind world)
  (canSpeak : ∀ text, session.Speaks text → session.CanSpeak text)

include sound canSpeak

theorem does_greet : Does session (Expr.runAll World.host greet.actions) world ()
    { mind.say greeting with state := .text "listening" } []
    (spoken greeting ++ [.finishConversation, .askQuestion " "]) := by
  have possible := canSpeak greeting (.fixed (by simp [fixedTexts]))
  have member : Capability.recognition false ∈ World.defaults := by simp [World.defaults]
  have found : (Capability.recognition false).operation? "listen" = some .listen := rfl
  refine does_runAll_cons (does_sayingLiteral sound possible) fun sound => ?_
  refine does_runAll_cons (does_entering sound _) fun sound => ?_
  refine does_runAll_cons (does_command sound member found (does_listen sound) rfl) fun sound => ?_
  exact does_runAll_nil sound

theorem does_depart {destination : Text}
    (captured : Pattern.extract? destinationPattern mind.heard.asText 0 = some destination) :
    Does session (Expr.runAll World.host depart.actions) world ()
      { mind.say "Okay" with
        state := .text "navigating"
        destination := .text destination } [] (spoken "Okay") := by
  have possible := canSpeak "Okay" (.fixed (by simp [fixedTexts]))
  have capture : ∀ {between}, Sound session (mind.say "Okay") between →
      Does session ((Expr.capture destinationPattern heard 0).evaluate World.host) between
        (.text destination) (mind.say "Okay") [] [] := fun sound => by
    rw [Expr.evaluate]
    refine (does_heard sound).bind fun sound => ?_
    rw [Mind.heard_say, captured]
    exact .pure sound _
  rw [← List.append_nil (spoken _)]
  refine does_runAll_cons (does_sayingLiteral sound possible) fun sound => ?_
  have different : "destination".toList ≠ "conversationHistory".toList := by simp
  have taken := does_setting different (capture sound)
  rw [Mind.write_destination] at taken
  refine does_runAll_cons taken fun sound => ?_
  refine does_runAll_cons (does_entering sound _) fun sound => ?_
  exact does_runAll_nil sound

theorem does_drive {destination : Text} (visible : ¬Text.isBlank destination = true)
    (noted : mind.destination = .text destination) :
    Does session (Expr.runAll World.host drive.actions) world ()
      { mind.say "On my way" with state := .text "idle" } []
      (spoken "On my way" ++ [.goTo destination false none]) := by
  have possible := canSpeak "On my way" (.fixed (by simp [fixedTexts]))
  have member : Capability.motion .stationary ∈ World.defaults := by simp [World.defaults]
  have found : (Capability.motion .stationary).operation? "goToLocation" = some .goToLocation := rfl
  refine does_runAll_cons (does_sayingLiteral sound possible) fun sound => ?_
  have read := does_evaluateAll (does_destination sound)
  rw [Mind.destination_say, noted] at read
  refine does_runAll_cons (does_call sound member found read
    (fun sound => does_goTo sound visible) rfl) fun sound => ?_
  refine does_runAll_cons (does_entering sound _) fun sound => ?_
  exact does_runAll_nil sound

theorem does_namePlaces : Does session (Expr.runAll World.host namePlaces.actions) world ()
    { mind.say session.placesText with state := .text "idle" } [] (spoken session.placesText) := by
  have possible := canSpeak session.placesText .places
  have member : Capability.places ∈ World.defaults := by simp [World.defaults]
  have found : Capability.places.operation? "listLocations" = some .listLocations := rfl
  rw [← List.append_nil (spoken _)]
  refine does_runAll_cons (does_saying sound possible
    (does_command sound member found (does_describeAll sound) rfl)) fun sound => ?_
  refine does_runAll_cons (does_entering sound _) fun sound => ?_
  exact does_runAll_nil sound

theorem does_lookUp : Does session (Expr.runAll World.host lookUp.actions) world ()
    { mind.say "Looking up" with state := .text "idle" } []
    (spoken "Looking up" ++ [.tilt Movement.raisedAngle]) := by
  have possible := canSpeak "Looking up" (.fixed (by simp [fixedTexts]))
  have member : Capability.head ∈ World.defaults := by simp [World.defaults]
  have found : Capability.head.operation? "up" = some .headUp := rfl
  refine does_runAll_cons (does_sayingLiteral sound possible) fun sound => ?_
  refine does_runAll_cons (does_command sound member found (does_tiltHead sound _) rfl)
    fun sound => ?_
  refine does_runAll_cons (does_entering sound _) fun sound => ?_
  exact does_runAll_nil sound

theorem does_goingHome : Does session (Expr.runAll World.host goHome.actions) world ()
    { mind.say "Going home" with state := .text "idle" } []
    (spoken "Going home" ++ [.goTo Robot.homeBase false none]) := by
  have possible := canSpeak "Going home" (.fixed (by simp [fixedTexts]))
  have member : Capability.motion .stationary ∈ World.defaults := by simp [World.defaults]
  have found : (Capability.motion .stationary).operation? "goHome" = some .goHome := rfl
  refine does_runAll_cons (does_sayingLiteral sound possible) fun sound => ?_
  refine does_runAll_cons (does_command sound member found (does_goHome sound) rfl)
    fun sound => ?_
  refine does_runAll_cons (does_entering sound _) fun sound => ?_
  exact does_runAll_nil sound

theorem exists_does_consult
    (chat : ∀ count question lines failure,
      session.answer count question lines = .error failure → ∃ error, failure = .chat error)
    {utterance : Text} (heard : mind.heard = .text utterance)
    (last : mind.lines.getLast? = some (Line.user utterance)) :
    ∃ text requests, Does session (Expr.runAll World.host consult.actions) world ()
        { mind.say text with state := .text "idle" } requests (spoken text) ∧
      requests.length ≤ 1 ∧
      ∀ request ∈ requests, Chat.member? "messages" request.body = .ok (.list
        ((Line.system Chat.standardInstructions :: mind.lines).map Line.message)) := by
  have member : Capability.assistant ∈ World.defaults := by simp [World.defaults]
  have found : Capability.assistant.operation? "ask" = some .ask := rfl
  rcases exists_does_ask sound chat last with ⟨text, requests, does, speaks, one, messages⟩
  refine ⟨text, requests, ?_, one, messages⟩
  have evaluated : Expr.evaluateAll World.host [Bundled.heard] world =
      .ok [.text utterance] world := by
    simp only [Expr.evaluateAll, bind, EStateM.bind, evaluate_heard sound, heard, pure,
      EStateM.pure]
  have asked : Does session ((Expr.call "Assistant" "ask" [Bundled.heard]).evaluate World.host)
      world (.text text) mind requests [] :=
    does_call_of_evaluated sound member found evaluated does rfl
  rw [← List.append_nil requests, ← List.append_nil (spoken text)]
  refine does_runAll_cons (does_saying sound (canSpeak text speaks) asked) fun sound => ?_
  refine does_runAll_cons (does_entering sound _) fun sound => ?_
  exact does_runAll_nil sound

end Rules

end RobotRules.Session
