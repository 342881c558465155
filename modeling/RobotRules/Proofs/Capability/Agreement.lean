import RobotRules.Capability.Registry
import RobotRules.Proofs.Chat.Request
import RobotRules.Proofs.Evaluation.Agreement
import RobotRules.Proofs.Memory.Agreement

/-! Worlds whose memories tell the same. Nothing that rules can call tells such worlds apart:
most operations do not look at memory at all, and those that do ask it for a parameter, by
its name. -/

namespace RobotRules

open Act (Respects respects_pure respects_throw respects_modify)

namespace World

variable {α β γ : Type} {world other : World}

/-- The world with another memory. -/
def withMemory (memory : Memory) (world : World) : World := { world with memory := memory }

/-- The worlds are equal but for the order in which parameters were first written. -/
structure Agrees (world other : World) : Prop where
  memory : world.memory.Agrees other.memory
  rest : other = world.withMemory other.memory

theorem Agrees.refl (world : World) : world.Agrees world := ⟨.refl _, rfl⟩

theorem Agrees.trans {third : World} (first : world.Agrees other) (second : other.Agrees third) :
    world.Agrees third where
  memory := first.memory.trans second.memory
  rest := by
    have same := second.rest
    rw [first.rest] at same
    exact same

theorem agrees_withMemory {memory : Memory} (agrees : world.memory.Agrees memory) :
    world.Agrees (world.withMemory memory) := ⟨agrees, rfl⟩

/-- What is not taken from memory is the same in both. -/
theorem Agrees.eq_of_unread (agrees : world.Agrees other) {look : World → γ}
    (unread : ∀ memory world, look (withMemory memory world) = look world) :
    look world = look other := by
  rw [agrees.rest, unread]

theorem respects_look {next : World → Action β}
    (unread : ∀ memory world, next (withMemory memory world) = next world)
    (each : ∀ world, Respects Agrees (next world)) : Respects Agrees (get >>= next) :=
  .get (fun agrees => agrees.eq_of_unread unread) each

/-- A change has nothing to do with memory if it does not matter whether it comes before or after
a change of memory. -/
theorem respects_change {change : World → World}
    (apart : ∀ memory world, change (withMemory memory world) =
      withMemory memory (change world)) :
    Respects Agrees (modify change : Action Unit) := by
  apply respects_modify
  intro world other agrees
  have kept := congrArg World.memory (apart world.memory world)
  change (change world).memory = world.memory at kept
  rw [agrees.rest, apart]
  apply agrees_withMemory
  rw [kept]
  exact agrees.memory

theorem respects_remember {change : World → Memory}
    (keeps : ∀ {world other : World}, world.Agrees other → (change world).Agrees (change other)) :
    Respects Agrees (modify fun world => { world with memory := change world } : Action Unit) := by
  apply respects_modify
  intro world other agrees
  refine ⟨keeps agrees, ?_⟩
  rw [agrees.rest]
  rfl

/-! Single changes. -/

theorem respects_tell (action : RobotAction) : Respects Agrees (tell action) :=
  respects_change fun _ _ => rfl

theorem respects_record (entry : LogEntry) :
    Respects Agrees (modify (record entry) : Action Unit) :=
  respects_change fun _ _ => rfl

theorem respects_warn (channel message : Text) : Respects Agrees (warn channel message) :=
  respects_record _

theorem respects_reportError (channel message : Text) :
    Respects Agrees (reportError channel message) :=
  respects_record _

theorem respects_setCapability (receiver : Text) (capability : Capability) :
    Respects Agrees (setCapability receiver capability) :=
  respects_change fun _ _ => rfl

theorem respects_setSaved (places : List Value) : Respects Agrees (Places.setSaved places) :=
  respects_change fun _ _ => rfl

theorem respects_saved : Respects Agrees Places.saved :=
  respects_look (fun _ _ => rfl) fun _ => respects_pure _

theorem respects_isSaved (name : Text) : Respects Agrees (Places.isSaved name) := by
  refine respects_saved.bind fun places => ?_
  split
  · exact respects_pure _
  · exact respects_throw _

theorem respects_pause (milliseconds : Nat) : Respects Agrees (Speech.pause milliseconds) := by
  refine respects_look (fun _ _ => rfl) fun world => ?_
  split
  · exact respects_throw _
  · exact respects_pure ()
  · exact respects_change fun _ _ => rfl

theorem respects_addLine (role text : Text) : Respects Agrees (addLine role text) := by
  apply respects_modify
  intro world other agrees
  have clock : world.clock = other.clock := agrees.eq_of_unread fun _ _ => rfl
  constructor
  · dsimp only
    rw [clock]
    exact agrees.memory.addTurn _ _ _
  · rw [agrees.rest]
    rfl

theorem respects_needName (name : Value) : Respects Agrees (needName name) := by
  unfold needName
  split
  · exact respects_pure ()
  · exact respects_throw _

/-! The operations of memory. -/

/-- What only a name can be asked for. -/
theorem respects_named {name : Value} {action : Action α}
    (respects : name.isName = true → Respects Agrees action) :
    Respects Agrees (do needName name; action) := by
  by_cases isName : name.isName = true
  · exact (respects_needName name).bind fun _ => respects isName
  · have refused : (do needName name; action) = (throw .notAName : Action α) := by
      rw [needName, if_neg isName]
      rfl
    rw [refused]
    exact respects_throw _

theorem respects_write (name value : Value) : Respects Agrees (write name value) := by
  apply respects_named
  intro isName
  apply respects_remember
  intro world other agrees
  have clock : world.clock = other.clock := agrees.eq_of_unread fun _ _ => rfl
  rw [clock]
  exact agrees.memory.write isName _ _

theorem respects_memory (operation : MemoryOperation) (arguments : List Value) :
    Respects Agrees (operation.run arguments) := by
  unfold MemoryOperation.run
  split
  · apply respects_named
    intro isName
    exact .get (fun agrees => by rw [agrees.memory.read_eq isName]) fun _ => respects_pure _
  · exact (respects_write _ _).bind fun _ => respects_pure _
  · apply respects_named
    intro isName
    exact .get (fun agrees => by rw [agrees.memory.previous_eq isName]) fun _ => respects_pure _
  · exact (respects_remember fun agrees => agrees.memory.clearHistory).bind fun _ =>
      respects_pure _
  · exact (respects_remember fun agrees => agrees.memory.reset).bind fun _ => respects_pure _
  · exact respects_throw _

/-! The operations of the capabilities. -/

theorem respects_speak (text : Value) : Respects Agrees (Speech.speak text) := by
  unfold Speech.speak
  split
  · split
    · exact respects_pure _
    · refine (respects_addLine _ _).bind fun _ => ?_
      refine (respects_tell _).bind fun _ => ?_
      refine (respects_pause _).bind fun _ => ?_
      refine (respects_tell _).bind fun _ => ?_
      exact (respects_pause _).bind fun _ => respects_pure _
  · exact respects_pure _

theorem respects_setListening (receiver : Text) (listening : Value) :
    Respects Agrees (Speech.setListening receiver listening) :=
  (respects_setCapability _ _).bind fun _ =>
    (respects_change fun _ _ => rfl).bind fun _ => respects_pure _

theorem respects_listen (receiver : Text) : Respects Agrees (Speech.listen receiver) :=
  (respects_setListening _ _).bind fun _ => (respects_tell _).bind fun _ =>
    (respects_tell _).bind fun _ => respects_pure _

theorem respects_stopListening (receiver : Text) :
    Respects Agrees (Speech.stopListening receiver) :=
  (respects_setListening _ _).bind fun _ => (respects_tell _).bind fun _ => respects_pure _

theorem respects_isListening (receiver : Text) : Respects Agrees (Speech.isListening receiver) := by
  refine respects_look (fun _ _ => rfl) fun world => ?_
  split
  · exact respects_pure _
  · exact respects_pure _

theorem respects_tiltHead (degrees : Int) : Respects Agrees (Movement.tiltHead degrees) :=
  (respects_change fun _ _ => rfl).bind fun _ =>
    (respects_tell _).bind fun _ => respects_pure _

theorem respects_motion (receiver : Text) : Respects Agrees (Movement.motion receiver) := by
  refine respects_look (fun _ _ => rfl) fun world => ?_
  split
  · exact respects_pure _
  · exact respects_pure _

theorem respects_move (receiver : Text) (state : Motion) (action : RobotAction) :
    Respects Agrees (do
      Movement.setMotion receiver state
      tell action
      return Value.absent) :=
  (respects_setCapability _ _).bind fun _ => (respects_tell _).bind fun _ => respects_pure _

theorem respects_goTo (receiver : Text) (location speed backwards : Value) :
    Respects Agrees (Movement.goTo receiver location speed backwards) := by
  unfold Movement.goTo
  split
  · refine respects_saved.bind fun places => (respects_isSaved _).bind fun saved => ?_
    -- the warning of an unknown place is all that comes before the drive
    cases saved
    case' false => refine (respects_warn _ _).bind fun _ => ?_
    all_goals
      refine (respects_setCapability _ _).bind fun _ => ?_
      split
      · exact respects_throw _
      · exact (respects_tell _).bind fun _ => respects_pure _
  · exact (respects_reportError _ _).bind fun _ => respects_pure _

theorem respects_robotSave (name : Text) : Respects Agrees (Places.robotSave name) := by
  refine respects_look (fun _ _ => rfl) fun world => ?_
  have told (done : Bool) : Respects Agrees (do tell (.saveLocation name); return done) :=
    (respects_tell _).bind fun _ => respects_pure _
  split
  · exact told false
  · refine (respects_isSaved _).bind fun saved => ?_
    cases saved with
    | true => exact told true
    | false =>
        exact respects_saved.bind fun _ => (respects_setSaved _).bind fun _ => told true

theorem respects_robotDelete (name : Text) : Respects Agrees (Places.robotDelete name) := by
  refine respects_look (fun _ _ => rfl) fun world => ?_
  split
  · exact (respects_tell _).bind fun _ => respects_pure _
  · refine respects_saved.bind fun places => ?_
    split
    · exact respects_throw _
    · exact (respects_setSaved _).bind fun _ =>
        (respects_tell _).bind fun _ => respects_pure _

theorem respects_save (name : Value) : Respects Agrees (Places.save name) := by
  unfold Places.save
  split
  · exact (respects_reportError _ _).bind fun _ => respects_pure _
  · refine (respects_robotSave _).bind fun done => ?_
    cases done with
    | true => exact respects_pure _
    | false => exact (respects_warn _ _).bind fun _ => respects_pure _

theorem respects_delete (name : Value) : Respects Agrees (Places.delete name) := by
  unfold Places.delete
  split
  · exact (respects_reportError _ _).bind fun _ => respects_pure _
  · refine (respects_isSaved _).bind fun saved => ?_
    cases saved with
    | false => exact (respects_warn _ _).bind fun _ => respects_pure _
    | true =>
        refine (respects_robotDelete _).bind fun done => ?_
        cases done with
        | true => exact respects_pure _
        | false => exact (respects_warn _ _).bind fun _ => respects_pure _

theorem respects_describeAll : Respects Agrees Places.describeAll := by
  refine respects_saved.bind fun places => ?_
  split
  · exact respects_pure _
  · split
    · exact respects_pure _
    · exact respects_throw _

theorem respects_isKnown (name : Value) : Respects Agrees (Places.isKnown name) := by
  unfold Places.isKnown
  split
  · exact respects_pure _
  · exact (respects_isSaved _).bind fun _ => respects_pure _

theorem respects_launchFirst (apps : List Text) : Respects Agrees (Apps.launchFirst apps) := by
  induction apps with
  | nil => exact respects_pure _
  | cons app rest induction =>
      refine (respects_tell _).bind fun _ => respects_look (fun _ _ => rfl) fun world => ?_
      split
      · exact respects_pure _
      · exact induction

theorem respects_openApp (name : Value) : Respects Agrees (Apps.openApp name) := by
  unfold Apps.openApp
  split
  · exact (respects_reportError _ _).bind fun _ => respects_pure _
  · dsimp only
    split
    · exact (respects_tell _).bind fun _ => respects_pure _
    · refine (respects_launchFirst _).bind fun launched => ?_
      cases launched with
      | true => exact respects_pure _
      | false => exact (respects_warn _ _).bind fun _ => respects_pure _

theorem Respects.attempt {action : Action α} (respects : Respects Agrees action) :
    Respects Agrees (attempt action) := by
  intro world other agrees
  rcases respects agrees with ⟨outcome, next, next', agrees', done, done'⟩
  refine ⟨.ok outcome, next, next', agrees', ?_, ?_⟩
  · unfold World.attempt
    rw [done]
    cases outcome <;> rfl
  · unfold World.attempt
    rw [done']
    cases outcome <;> rfl

theorem respects_complete (question : Text) (turns : List Value) :
    Respects Agrees (Assistant.complete question turns) := by
  intro world other agrees
  rw [agrees.rest]
  refine ⟨_, _, _, ?_, Assistant.complete_eq question turns world,
    Assistant.complete_eq question turns (world.withMemory other.memory)⟩
  exact ⟨agrees.memory, rfl⟩

theorem respects_ask (prompt : Value) : Respects Agrees (Assistant.ask prompt) := by
  unfold Assistant.ask
  split
  · split
    · exact (respects_reportError _ _).bind fun _ => respects_pure _
    · refine .get (fun agrees => by rw [agrees.memory.turns_eq]) fun world => ?_
      refine (Respects.attempt (respects_complete _ _)).bind fun result => ?_
      split
      · exact respects_pure _
      · exact (respects_warn _ _).bind fun _ => respects_pure _
      · exact respects_throw _
  · exact (respects_reportError _ _).bind fun _ => respects_pure _

theorem respects_probe (receiver : Text) : Respects Agrees (Operation.probe receiver) := by
  refine respects_look (fun _ _ => rfl) fun world => ?_
  split
  · exact respects_pure _
  · exact respects_pure _

theorem respects_takeDown (receiver : Text) (arguments : List Value) :
    Respects Agrees (Operation.takeDown receiver arguments) := by
  refine (respects_probe receiver).bind fun probe => ?_
  split
  · exact (respects_change fun _ _ => rfl).bind fun _ => respects_pure _
  · exact respects_pure _

/-- No operation of a capability tells the worlds apart, whatever it is given. -/
theorem respects_run (operation : Operation) (receiver : Text) (arguments : List Value) :
    Respects Agrees (operation.run receiver arguments) := by
  unfold Operation.run
  split
  -- which lemma is meant is seen from the name of the operation, so nothing is to be unfolded
  all_goals first
    | with_reducible first
      | exact respects_speak _
      | exact respects_listen _
      | exact respects_stopListening _
      | exact respects_isListening _
      | exact respects_setListening _ _
      | exact respects_tiltHead _
      | exact respects_goTo _ _ _ _
      | exact (respects_motion _).bind fun _ => respects_pure _
      | exact respects_describeAll
      | exact respects_save _
      | exact respects_delete _
      | exact respects_isKnown _
      | exact respects_openApp _
      | exact respects_ask _
      | exact respects_takeDown _ _
      | exact (respects_probe _).bind fun _ => respects_pure _
      | exact respects_throw _
    | exact respects_move _ _ _
    | exact respects_saved.bind fun _ => respects_pure _

theorem respects_host : host.Respects Agrees where
  resolve receiver method _ _ agrees := agrees.eq_of_unread fun _ _ => rfl
  record entry _ _ agrees := by
    rw [agrees.rest]
    exact agrees_withMemory agrees.memory
  operation := by
    intro receiver method world operation resolved arguments
    change World.resolve receiver method world = .ok operation at resolved
    unfold World.resolve at resolved
    split at resolved
    · split at resolved
      · rw [← Except.ok.inj resolved]
        exact respects_memory _ arguments
      · cases resolved
    · split at resolved
      · cases resolved
      · split at resolved
        · rw [← Except.ok.inj resolved]
          exact respects_run _ receiver arguments
        · cases resolved

end World

end RobotRules
