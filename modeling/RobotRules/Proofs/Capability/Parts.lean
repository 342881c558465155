import RobotRules.Event
import RobotRules.Proofs.Evaluation.Preservation
import RobotRules.Proofs.Evaluation.ReadOnly

/-! Which parts of the world an operation touches. What concerns a part are some fields of
the world and some of the actions that the robot is told to do. Speaking touches the
conversation, saving and deleting touch the places, and so on; most operations touch
nothing that is a part. -/

namespace RobotRules

open Act (reached)

inductive Part where
  /-- What was said: the lines that are shown, memory, and what the robot speaks. -/
  | conversation
  /-- The capabilities with what they keep track of. -/
  | registry
  /-- What the robot is told about moving. -/
  | movement
  | places
deriving DecidableEq

namespace Part

/-- The part that something the robot is told belongs to. -/
def ofAction? : RobotAction → Option Part
  | .speak _ => some .conversation
  | .goTo .. | .beWithMe _ | .stopMovement => some .movement
  | _ => none

/-- The fields of a part stay as they are. -/
def Stays : Part → World → World → Prop
  | .conversation, before, after =>
    after.config = before.config ∧ after.memory = before.memory ∧
      after.robot.messages = before.robot.messages
  | .registry, before, after => after.registry = before.registry
  | .movement, _, _ => True
  | .places, before, after =>
    after.robot.locations = before.robot.locations ∧
      after.robot.keepsLocations = before.robot.keepsLocations

end Part

namespace World

variable {part : Part} {before between after : World} {α β : Type}

/-- A part stays as it is, and the robot is told nothing that belongs to it. -/
structure Untouched (part : Part) (before after : World) : Prop where
  stays : part.Stays before after
  told : ∃ told, after.robot.actions = before.robot.actions ++ told ∧
    ∀ action ∈ told, Part.ofAction? action ≠ some part

theorem Untouched.refl (part : Part) (world : World) : Untouched part world world where
  stays := by cases part <;> simp [Part.Stays]
  told := ⟨[], (List.append_nil _).symm, by simp⟩

theorem Untouched.trans (first : Untouched part before between)
    (second : Untouched part between after) : Untouched part before after where
  stays := by
    have one := first.stays
    have two := second.stays
    cases part with
    | conversation => exact ⟨two.1.trans one.1, two.2.1.trans one.2.1, two.2.2.trans one.2.2⟩
    | registry => exact Eq.trans two one
    | movement => trivial
    | places => exact ⟨two.1.trans one.1, two.2.trans one.2⟩
  told := by
    rcases first.told with ⟨told, same, others⟩
    rcases second.told with ⟨told', same', others'⟩
    refine ⟨told ++ told', by rw [same', same, List.append_assoc], fun action member => ?_⟩
    exact (List.mem_append.mp member).elim (others action) (others' action)

theorem Untouched.registry_eq (untouched : Untouched .registry before after) :
    after.registry = before.registry := untouched.stays

theorem Untouched.filterMap_actions {γ : Type} {read : RobotAction → Option γ}
    (untouched : Untouched part before after)
    (only : ∀ action, Part.ofAction? action ≠ some part → read action = none) :
    after.robot.actions.filterMap read = before.robot.actions.filterMap read := by
  rcases untouched.told with ⟨told, same, others⟩
  have nothing : told.filterMap read = [] :=
    List.filterMap_eq_nil_iff.mpr fun action member => only action (others action member)
  rw [same, List.filterMap_append, nothing, List.append_nil]

theorem untouched_tell {action : RobotAction} (other : Part.ofAction? action ≠ some part)
    (world : World) : Untouched part world { world with robot := world.robot.act action } where
  stays := by cases part <;> simp [Part.Stays, Robot.act]
  told := ⟨[action], rfl, by simpa using other⟩

/-- Where nothing changes that belongs to a part, no part is touched. -/
theorem untouched_of_eq (config : after.config = before.config)
    (memory : after.memory = before.memory) (registry : after.registry = before.registry)
    (messages : after.robot.messages = before.robot.messages)
    (locations : after.robot.locations = before.robot.locations)
    (keepsLocations : after.robot.keepsLocations = before.robot.keepsLocations)
    (actions : after.robot.actions = before.robot.actions) : Untouched part before after where
  stays := by
    cases part with
    | conversation => exact ⟨config, memory, messages⟩
    | registry => exact registry
    | movement => trivial
    | places => exact ⟨locations, keepsLocations⟩
  told := ⟨[], by rw [actions, List.append_nil], by simp⟩

theorem untouched_setRegistry (other : part ≠ .registry) (registry : Registry) (world : World) :
    Untouched part world { world with registry := registry } where
  stays := by cases part <;> simp_all [Part.Stays]
  told := (Untouched.refl part world).told

/-- An action touches a part in no world. -/
def Spares (part : Part) (action : Action α) : Prop :=
  ∀ world, Untouched part world (reached (action world))

theorem spares_of_reads {action : Action α} (reads : Reads action) : Spares part action := by
  intro world
  rcases reads.exists_outcome world with ⟨outcome, gives⟩
  rw [gives]
  cases outcome <;> exact .refl part world

theorem spares_pure (value : α) : Spares part (pure value) := .refl part

theorem spares_throw (failure : Failure) : Spares part (throw failure : Action α) :=
  .refl part

theorem Spares.bind {first : Action α} {next : α → Action β} (one : Spares part first)
    (two : ∀ value, Spares part (next value)) : Spares part (first >>= next) :=
  fun world => Act.reached_bind (Untouched part world) (one world) fun _ untouched =>
    untouched.trans (two _ _)

theorem Spares.get {next : World → Action β} (two : ∀ world, Spares part (next world)) :
    Spares part (get >>= next) := fun world => two world world

theorem spares_modify {change : World → World}
    (untouched : ∀ world, Untouched part world (change world)) :
    Spares part (modify change : Action Unit) := untouched

/-! Single changes. -/

theorem spares_tell {action : RobotAction} (other : Part.ofAction? action ≠ some part) :
    Spares part (tell action) := untouched_tell other

theorem spares_record (entry : LogEntry) : Spares part (modify (record entry) : Action Unit) :=
  spares_modify fun _ => untouched_of_eq rfl rfl rfl rfl rfl rfl rfl

theorem spares_warn (channel message : Text) : Spares part (warn channel message) :=
  spares_record _

theorem spares_reportError (channel message : Text) : Spares part (reportError channel message) :=
  spares_record _

theorem spares_setCapability (other : part ≠ .registry) (receiver : Text)
    (capability : Capability) : Spares part (setCapability receiver capability) :=
  spares_modify fun _ => untouched_setRegistry other _ _

theorem spares_setSaved (other : part ≠ .places) (places : List Value) :
    Spares part (Places.setSaved places) :=
  spares_modify fun world => ⟨by cases part <;> simp_all [Part.Stays],
    (Untouched.refl part world).told⟩

theorem spares_changeMemory (other : part ≠ .conversation) (change : World → Memory) :
    Spares part (modify fun world => { world with memory := change world } : Action Unit) :=
  spares_modify fun world => ⟨by cases part <;> simp_all [Part.Stays],
    (Untouched.refl part world).told⟩

theorem spares_write (other : part ≠ .conversation) (name value : Value) :
    Spares part (write name value) :=
  (spares_of_reads (reads_needName _)).bind fun _ => spares_changeMemory other _

theorem spares_addLine (other : part ≠ .conversation) (role text : Text) :
    Spares part (addLine role text) :=
  spares_modify fun world => ⟨by cases part <;> simp_all [Part.Stays, Robot.showLine],
    (Untouched.refl part world).told⟩

theorem spares_pause (milliseconds : Nat) : Spares part (Speech.pause milliseconds) := by
  refine .get fun world => ?_
  split
  · exact spares_throw _
  · exact spares_pure ()
  · exact spares_modify fun _ => untouched_of_eq rfl rfl rfl rfl rfl rfl rfl

/-- Nothing but the pause comes of a pause that can be made. -/
theorem exists_pause {milliseconds : Nat} {world : World}
    (possible : Speech.canPause milliseconds world.config.robot.speechDelayScale = true) :
    ∃ pauses, Speech.pause milliseconds world = .ok () { world with pauses := pauses } := by
  unfold Speech.canPause at possible
  rw [Speech.pause, Act.get_bind]
  match length : Speech.pauseLength? milliseconds world.config.robot.speechDelayScale with
  | .error _ =>
      rw [length] at possible
      cases possible
  | .ok none => exact ⟨world.pauses, rfl⟩
  | .ok (some time) => exact ⟨world.pauses ++ [time], rfl⟩

theorem Spares.attempt {action : Action α} (spares : Spares part action) :
    Spares part (attempt action) := by
  intro world
  have leads := spares world
  unfold World.attempt
  cases done : action world <;> rwa [done] at leads

/-! The operations of the capabilities. -/

theorem spares_speak (other : part ≠ .conversation) (text : Value) :
    Spares part (Speech.speak text) := by
  unfold Speech.speak
  split
  · split
    · exact spares_pure _
    · refine (spares_addLine other _ _).bind fun _ => ?_
      refine (spares_tell (by simp [Part.ofAction?])).bind fun _ => ?_
      refine (spares_pause _).bind fun _ => ?_
      refine (spares_tell (by simpa [Part.ofAction?] using other.symm)).bind fun _ => ?_
      exact (spares_pause _).bind fun _ => spares_pure _
  · exact spares_pure _

theorem spares_setListening (other : part ≠ .registry) (receiver : Text) (listening : Value) :
    Spares part (Speech.setListening receiver listening) := by
  refine (spares_setCapability other _ _).bind fun _ => ?_
  refine (spares_modify fun _ => ?_).bind fun _ => spares_pure _
  exact untouched_of_eq rfl rfl rfl rfl rfl rfl rfl

theorem spares_listen (other : part ≠ .registry) (receiver : Text) :
    Spares part (Speech.listen receiver) := by
  refine (spares_setListening other _ _).bind fun _ => ?_
  refine (spares_tell (by simp [Part.ofAction?])).bind fun _ => ?_
  exact (spares_tell (by simp [Part.ofAction?])).bind fun _ => spares_pure _

theorem spares_stopListening (other : part ≠ .registry) (receiver : Text) :
    Spares part (Speech.stopListening receiver) := by
  refine (spares_setListening other _ _).bind fun _ => ?_
  exact (spares_tell (by simp [Part.ofAction?])).bind fun _ => spares_pure _

theorem spares_tiltHead (degrees : Int) : Spares part (Movement.tiltHead degrees) := by
  refine (spares_modify fun _ => ?_).bind fun _ => ?_
  · exact untouched_of_eq rfl rfl rfl rfl rfl rfl rfl
  · exact (spares_tell (by simp [Part.ofAction?])).bind fun _ => spares_pure _

section Moving

variable (other : part ≠ .registry) (other' : part ≠ .movement) (receiver : Text)

include other other'

theorem spares_move (state : Motion) {action : RobotAction}
    (moves : Part.ofAction? action = some .movement) :
    Spares part (do Movement.setMotion receiver state; tell action; return Value.absent) := by
  refine (spares_setCapability other _ _).bind fun _ => ?_
  refine (spares_tell fun same => other' ?_).bind fun _ => spares_pure _
  exact (Option.some.inj (moves.symm.trans same)).symm

theorem spares_drive (name : Text) (speed backwards : Value) : Spares part (do
    Movement.setMotion receiver .navigating
    match Movement.isBackwards? backwards with
    | .error failure => throw failure
    | .ok backwards =>
      tell (.goTo name backwards (Movement.speed? speed))
      return Value.absent) := by
  cases Movement.isBackwards? backwards with
  | error failure => exact (spares_setCapability other _ _).bind fun _ => spares_throw _
  | ok backwards => exact spares_move other other' receiver .navigating rfl

theorem spares_goTo (location speed backwards : Value) :
    Spares part (Movement.goTo receiver location speed backwards) := by
  have drive (name : Text) := spares_drive other other' receiver name speed backwards
  unfold Movement.goTo
  split
  · refine (spares_of_reads reads_saved).bind fun places => ?_
    refine (spares_of_reads (reads_isSaved _)).bind fun saved => ?_
    cases saved with
    | true => exact drive _
    | false => exact (spares_warn _ _).bind fun _ => drive _
  · exact (spares_reportError _ _).bind fun _ => spares_pure _

end Moving

theorem spares_save (other : part ≠ .places) (name : Value) : Spares part (Places.save name) := by
  have robotSave (name : Text) : Spares part (Places.robotSave name) := by
    refine .get fun world => ?_
    split
    · exact (spares_tell (by simp [Part.ofAction?])).bind fun _ => spares_pure _
    · refine (spares_of_reads (reads_isSaved _)).bind fun saved => ?_
      have told : Spares part (do tell (.saveLocation name); return true) :=
        (spares_tell (by simp [Part.ofAction?])).bind fun _ => spares_pure _
      cases saved with
      | true => exact told
      | false =>
          exact (spares_of_reads reads_saved).bind fun _ =>
            (spares_setSaved other _).bind fun _ => told
  unfold Places.save
  split
  · exact (spares_reportError _ _).bind fun _ => spares_pure _
  · refine (robotSave _).bind fun done => ?_
    cases done with
    | true => exact spares_pure _
    | false => exact (spares_warn _ _).bind fun _ => spares_pure _

theorem spares_delete (other : part ≠ .places) (name : Value) :
    Spares part (Places.delete name) := by
  have robotDelete (name : Text) : Spares part (Places.robotDelete name) := by
    refine .get fun world => ?_
    split
    · exact (spares_tell (by simp [Part.ofAction?])).bind fun _ => spares_pure _
    · refine (spares_of_reads reads_saved).bind fun places => ?_
      split
      · exact spares_throw _
      · refine (spares_setSaved other _).bind fun _ => ?_
        exact (spares_tell (by simp [Part.ofAction?])).bind fun _ => spares_pure _
  unfold Places.delete
  split
  · exact (spares_reportError _ _).bind fun _ => spares_pure _
  · refine (spares_of_reads (reads_isSaved _)).bind fun saved => ?_
    cases saved with
    | false => exact (spares_warn _ _).bind fun _ => spares_pure _
    | true =>
        refine (robotDelete _).bind fun done => ?_
        cases done with
        | true => exact spares_pure _
        | false => exact (spares_warn _ _).bind fun _ => spares_pure _

theorem spares_launchFirst (apps : List Text) : Spares part (Apps.launchFirst apps) := by
  induction apps with
  | nil => exact spares_pure _
  | cons app rest induction =>
      refine (spares_tell (by simp [Part.ofAction?])).bind fun _ => .get fun world => ?_
      split
      · exact spares_pure _
      · exact induction

theorem spares_openApp (name : Value) : Spares part (Apps.openApp name) := by
  unfold Apps.openApp
  split
  · exact (spares_reportError _ _).bind fun _ => spares_pure _
  · dsimp only
    split
    · exact (spares_tell (by simp [Part.ofAction?])).bind fun _ => spares_pure _
    · refine (spares_launchFirst _).bind fun launched => ?_
      cases launched with
      | true => exact spares_pure _
      | false => exact (spares_warn _ _).bind fun _ => spares_pure _

theorem spares_complete (question : Text) (turns : List Value) :
    Spares part (Assistant.complete question turns) := by
  intro world
  unfold Assistant.complete
  rw [Act.get_bind]
  dsimp only
  cases (Chat.ask (.ofConfig world.config.assistant) question turns world.replies).1 <;>
    exact untouched_of_eq rfl rfl rfl rfl rfl rfl rfl

theorem spares_ask (prompt : Value) : Spares part (Assistant.ask prompt) := by
  unfold Assistant.ask
  split
  · split
    · exact (spares_reportError _ _).bind fun _ => spares_pure _
    · refine .get fun world => ?_
      refine (spares_complete _ _).attempt.bind fun result => ?_
      split
      · exact spares_pure _
      · exact (spares_warn _ _).bind fun _ => spares_pure _
      · exact spares_throw _
  · exact (spares_reportError _ _).bind fun _ => spares_pure _

theorem reads_probe (receiver : Text) : Reads (Operation.probe receiver) := by
  refine .get (fun _ _ => rfl) fun world => ?_
  split
  · exact reads_pure _
  · exact reads_pure _

theorem spares_takeDown (receiver : Text) (arguments : List Value) :
    Spares part (Operation.takeDown receiver arguments) := by
  refine (spares_of_reads (reads_probe receiver)).bind fun probe => ?_
  split
  · refine (spares_modify fun _ => ?_).bind fun _ => spares_pure _
    exact untouched_of_eq rfl rfl rfl rfl rfl rfl rfl
  · exact spares_pure _

end World

/-- The parts that an operation may touch. -/
def Operation.touches : Operation → List Part
  | .speak => [.conversation]
  | .listen | .stopListening | .setListening => [.registry]
  | .goToLocation | .goHome | .follow | .stopFollowing | .stopMovement => [.registry, .movement]
  | .saveLocation | .deleteLocation => [.places]
  | _ => []

namespace World

variable {part : Part}

/-- An operation leaves all other parts alone, whatever it is given and also if it fails. -/
theorem spares_run {operation : Operation} (other : part ∉ operation.touches) (receiver : Text)
    (arguments : List Value) : Spares part (operation.run receiver arguments) := by
  have refused : Spares part (throw .argumentCount : Action Value) := spares_throw _
  cases operation with
  | speak =>
      match arguments with
      | [text] => exact spares_speak (by simpa [Operation.touches] using other) text
      | [] | _ :: _ :: _ => exact refused
  | listen =>
      match arguments with
      | [] => exact spares_listen (by simpa [Operation.touches] using other) receiver
      | _ :: _ => exact refused
  | stopListening =>
      match arguments with
      | [] => exact spares_stopListening (by simpa [Operation.touches] using other) receiver
      | _ :: _ => exact refused
  | setListening =>
      match arguments with
      | [value] => exact spares_setListening (by simpa [Operation.touches] using other) _ value
      | [] | _ :: _ :: _ => exact refused
  | headUp | headDown =>
      match arguments with
      | [] => exact spares_tiltHead _
      | _ :: _ => exact refused
  | goToLocation =>
      have others : part ≠ .registry ∧ part ≠ .movement := by
        simpa [Operation.touches] using other
      match arguments with
      | [location] => exact spares_goTo others.1 others.2 _ location .absent (.boolean false)
      | [location, speed] => exact spares_goTo others.1 others.2 _ location speed (.boolean false)
      | [location, speed, backwards] =>
          exact spares_goTo others.1 others.2 _ location speed backwards
      | [] | _ :: _ :: _ :: _ :: _ => exact refused
  | goHome =>
      have others : part ≠ .registry ∧ part ≠ .movement := by
        simpa [Operation.touches] using other
      match arguments with
      | [] | [_] => exact spares_move others.1 others.2 receiver .navigating rfl
      | _ :: _ :: _ => exact refused
  | follow =>
      have others : part ≠ .registry ∧ part ≠ .movement := by
        simpa [Operation.touches] using other
      match arguments with
      | [] | [_] => exact spares_move others.1 others.2 receiver .following rfl
      | _ :: _ :: _ => exact refused
  | stopFollowing | stopMovement =>
      have others : part ≠ .registry ∧ part ≠ .movement := by
        simpa [Operation.touches] using other
      match arguments with
      | [] => exact spares_move others.1 others.2 receiver .stationary rfl
      | _ :: _ => exact refused
  | saveLocation =>
      match arguments with
      | [name] => exact spares_save (by simpa [Operation.touches] using other) name
      | [] | _ :: _ :: _ => exact refused
  | deleteLocation =>
      match arguments with
      | [name] => exact spares_delete (by simpa [Operation.touches] using other) name
      | [] | _ :: _ :: _ => exact refused
  | openApp =>
      match arguments with
      | [name] => exact spares_openApp name
      | [] | _ :: _ :: _ => exact refused
  | ask =>
      match arguments with
      | [prompt] => exact spares_ask prompt
      | [] | _ :: _ :: _ => exact refused
  | probeRecord => exact spares_takeDown receiver arguments
  | probeGive =>
      match arguments with
      | [] => exact (spares_of_reads (reads_probe receiver)).bind fun _ => spares_pure _
      | _ :: _ => exact refused
  | probeFail => exact spares_throw _
  | _ => exact spares_of_reads (reads_run rfl receiver arguments)

/-- Memory is all that its operations touch. -/
theorem spares_memory (other : part ≠ .conversation) (operation : MemoryOperation)
    (arguments : List Value) : Spares part (operation.run arguments) := by
  by_cases reading : isMemoryReading operation = true
  · exact spares_of_reads (reads_memory reading arguments)
  unfold MemoryOperation.run
  split
  · exact absurd rfl reading
  · exact (spares_write other _ _).bind fun _ => spares_pure _
  · exact absurd rfl reading
  · exact (spares_changeMemory other _).bind fun _ => spares_pure _
  · exact (spares_changeMemory other _).bind fun _ => spares_pure _
  · exact spares_throw _

end World

end RobotRules
