import RobotRules.Proofs.Capability.Management
import RobotRules.Proofs.Capability.Places

/-! What the robot was last told about moving, and what the capability that moves it believes.
An operation of that capability either tells the robot something about moving and believes
the same, or it does neither. -/

namespace RobotRules

open Act (reached)

namespace RobotAction

/-- Whether an action has to do with moving. -/
def isMove : RobotAction → Bool
  | .goTo .. | .beWithMe _ | .stopMovement => true
  | _ => false

/-- Whether an action makes the robot move. -/
def isDrive : RobotAction → Bool
  | .goTo .. | .beWithMe _ => true
  | _ => false

/-- How the robot moves when it was told something. -/
def motion : RobotAction → Motion
  | .goTo .. => .navigating
  | .beWithMe _ => .following
  | _ => .stationary

theorem isMove_of_other {action : RobotAction} (other : Part.ofAction? action ≠ some .movement) :
    action.isMove = false := by
  cases action with
  | goTo | beWithMe | stopMovement => exact absurd rfl other
  | _ => rfl

theorem isDrive_of_other {action : RobotAction} (other : Part.ofAction? action ≠ some .movement) :
    action.isDrive = false := by
  cases action with
  | goTo | beWithMe | stopMovement => exact absurd rfl other
  | _ => rfl

end RobotAction

namespace Robot

/-- What the robot was told last about moving. -/
def lastMove? (robot : Robot) : Option RobotAction :=
  (robot.actions.filter RobotAction.isMove).getLast?

/-- How the robot moves, by what it was told last. -/
def motion (robot : Robot) : Motion := (robot.lastMove?.map RobotAction.motion).getD .stationary

/-- All that made the robot move, in order. -/
def drives (robot : Robot) : List RobotAction := robot.actions.filter RobotAction.isDrive

theorem lastMove?_act (robot : Robot) {action : RobotAction} (moves : action.isMove = true) :
    (robot.act action).lastMove? = some action := by
  rw [lastMove?, act, List.filter_append, List.filter_cons_of_pos moves, List.filter_nil,
    List.getLast?_concat]

theorem motion_act (robot : Robot) {action : RobotAction} (moves : action.isMove = true) :
    (robot.act action).motion = action.motion := by
  rw [motion, lastMove?_act robot moves]
  rfl

end Robot

namespace World

variable {world before after : World} {receiver method : Text} {operation : Operation}

theorem Untouched.filter_actions {part : Part} {read : RobotAction → Bool}
    (untouched : Untouched part before after)
    (only : ∀ action, Part.ofAction? action ≠ some part → read action = false) :
    after.robot.actions.filter read = before.robot.actions.filter read := by
  rw [← List.filterMap_eq_filter]
  exact untouched.filterMap_actions fun action other => by
    simp [Option.guard, only action other]

theorem Untouched.lastMove?_eq (untouched : Untouched .movement before after) :
    after.robot.lastMove? = before.robot.lastMove? :=
  congrArg List.getLast? (untouched.filter_actions fun _ => RobotAction.isMove_of_other)

theorem Untouched.drives_eq (untouched : Untouched .movement before after) :
    after.robot.drives = before.robot.drives :=
  untouched.filter_actions fun _ => RobotAction.isDrive_of_other

/-- The robot is told an action, and how it moves is tracked. -/
structure Obeys (receiver : Text) (action : RobotAction) (before after : World) : Prop where
  tracked : after.registry = install receiver (.motion action.motion) before.registry
  told : after.robot = before.robot.act action

/-- Neither what is tracked nor the robot changes. -/
structure Ignores (before after : World) : Prop where
  tracked : after.registry = before.registry
  told : after.robot = before.robot

theorem ignores_of_reads {α : Type} {action : Action α} (reads : Reads action) (world : World) :
    Ignores world (reached (action world)) := by
  rcases reads.exists_outcome world with ⟨outcome, gives⟩
  rw [gives]
  cases outcome <;> exact ⟨rfl, rfl⟩

end World

/-- The operations that can make the robot move. -/
def Operation.drives : Operation → Bool
  | .goToLocation | .goHome | .follow => true
  | _ => false

namespace World

variable {world before after : World} {receiver method : Text} {operation : Operation}

/-- Something that is no place is not driven to, which is all that is noted. -/
theorem exists_goTo_of_clean? {location : Value} (refused : Places.clean? location = none)
    (receiver : Text) (speed backwards : Value) (world : World) :
    ∃ entry, Movement.goTo receiver location speed backwards world =
      .ok .absent (record entry world) := by
  unfold Movement.goTo
  rw [refused]
  cases location <;> exact ⟨_, rfl⟩

theorem exists_isBackwards? {backwards : Value} (writable : backwards.isWritable = true) :
    ∃ truth, Movement.isBackwards? backwards = .ok truth := by
  unfold Movement.isBackwards?
  split
  · exact ⟨true, rfl⟩
  · exact ⟨_, if_pos writable⟩

/-- Tells the robot an action and tracks how it moves. -/
def order (receiver : Text) (action : RobotAction) : Action Value := do
  Movement.setMotion receiver action.motion
  tell action
  return .absent

theorem exists_order (receiver : Text) (action : RobotAction) (world : World) :
    ∃ after, order receiver action world = .ok .absent after ∧ Obeys receiver action world after :=
  ⟨_, rfl, rfl, rfl⟩

/-- A place is driven to once it was looked up, known or not. -/
theorem exists_goTo_text {spoken : Text} {backwards : Value} {truth : Bool}
    (visible : ¬Text.isBlank spoken = true)
    (isTruth : Movement.isBackwards? backwards = .ok truth) (receiver : Text) (speed : Value)
    (world : World) :
    ∃ entry, Movement.goTo receiver (.text spoken) speed backwards world =
      match Places.isAmong? (Text.lower (Text.trim spoken)) world.robot.locations with
      | .error failure => .error failure world
      | .ok known => order receiver (.goTo spoken truth (Movement.speed? speed))
          (if known then world else record entry world) := by
  refine ⟨⟨.warning, Movement.channel, "Location '" ++ spoken ++
    "' not found in saved locations: " ++ (Value.list world.robot.locations).write⟩, ?_⟩
  have looks := Places.isSaved_eq (Text.lower (Text.trim spoken)) world
  have saved : Places.saved world = .ok world.robot.locations world := rfl
  unfold Movement.goTo
  rw [Places.clean?_text visible, isTruth]
  refine (Act.bind_of_ok _ saved).trans ?_
  cases among : Places.isAmong? (Text.lower (Text.trim spoken)) world.robot.locations with
  | error failure =>
      rw [among] at looks
      exact Act.bind_of_error _ looks
  | ok known =>
      rw [among] at looks
      refine (Act.bind_of_ok _ looks).trans ?_
      cases known <;> rfl

theorem goTo_cases (receiver : Text) (location speed : Value) {backwards : Value}
    (writable : backwards.isWritable = true) (world : World) :
    (∃ action after, action.isDrive = true ∧
        Movement.goTo receiver location speed backwards world = .ok .absent after ∧
        Obeys receiver action world after) ∨
      Ignores world (reached (Movement.goTo receiver location speed backwards world)) := by
  rcases Places.clean?_cases location with refused | ⟨spoken, rfl, visible⟩
  · rcases exists_goTo_of_clean? refused receiver speed backwards world with ⟨entry, ignores⟩
    rw [ignores]
    exact .inr ⟨rfl, rfl⟩
  rcases exists_isBackwards? writable with ⟨truth, isTruth⟩
  rcases exists_goTo_text visible isTruth receiver speed world with ⟨entry, goes⟩
  rw [goes]
  cases Places.isAmong? (Text.lower (Text.trim spoken)) world.robot.locations with
  | error failure => exact .inr ⟨rfl, rfl⟩
  | ok known =>
      refine .inl ⟨.goTo spoken truth (Movement.speed? speed), _, rfl, rfl, ?_⟩
      cases known <;> exact ⟨rfl, rfl⟩

/-- An operation of the capability that moves the robot tells it something and tracks it, or it
does neither. Only driving looks at an argument that may be too long to be written. -/
theorem run_cases (mover : operation.owner.operations = (Capability.motion .stationary).operations)
    (receiver : Text) {arguments : List Value}
    (writable : operation.drives = true → ∀ argument ∈ arguments, argument.isWritable = true)
    (world : World) :
    (∃ action after, action.isMove = true ∧ (action.isDrive = true → operation.drives = true) ∧
        operation.run receiver arguments world = .ok .absent after ∧
        Obeys receiver action world after) ∨
      Ignores world (reached (operation.run receiver arguments world)) := by
  have refused : Ignores world (reached ((throw .argumentCount : Action Value) world)) :=
    ⟨rfl, rfl⟩
  have ordered (action : RobotAction) (moves : action.isMove = true)
      (drives : action.isDrive = true → operation.drives = true) :
      ∃ given after, given.isMove = true ∧ (given.isDrive = true → operation.drives = true) ∧
        order receiver action world = .ok .absent after ∧ Obeys receiver given world after := by
    rcases exists_order receiver action world with ⟨after, done, obeys⟩
    exact ⟨action, after, moves, drives, done, obeys⟩
  have driven (location speed backwards : Value)
      (short : backwards.isWritable = true) (drives : operation.drives = true) :
      (∃ action after, action.isMove = true ∧ (action.isDrive = true → operation.drives = true) ∧
        Movement.goTo receiver location speed backwards world = .ok .absent after ∧
        Obeys receiver action world after) ∨
      Ignores world (reached (Movement.goTo receiver location speed backwards world)) := by
    refine (goTo_cases receiver location speed short world).imp_left ?_
    rintro ⟨action, after, isDrive, done, obeys⟩
    have moves : action.isMove = true := by
      cases action with
      | goTo | beWithMe => rfl
      | _ => cases isDrive
    exact ⟨action, after, moves, fun _ => drives, done, obeys⟩
  cases operation with
  | goToLocation =>
      match arguments with
      | [] | _ :: _ :: _ :: _ :: _ => exact .inr refused
      | [location] => exact driven location .absent (.boolean false) rfl rfl
      | [location, speed] => exact driven location speed (.boolean false) rfl rfl
      | [location, speed, backwards] =>
          exact driven location speed backwards (writable rfl _ (by simp)) rfl
  | goHome =>
      match arguments with
      | [] | [_] => exact .inl (ordered (.goTo Robot.homeBase false _) rfl fun _ => rfl)
      | _ :: _ :: _ => exact .inr refused
  | follow =>
      match arguments with
      | [] | [_] => exact .inl (ordered (.beWithMe _) rfl fun _ => rfl)
      | _ :: _ :: _ => exact .inr refused
  | stopFollowing | stopMovement =>
      match arguments with
      | [] => exact .inl (ordered .stopMovement rfl nofun)
      | _ :: _ => exact .inr refused
  | getSavedLocations | isMoving | isFollowing | getMovementState =>
      exact .inr (ignores_of_reads (reads_run rfl receiver arguments) world)
  | _ => exact absurd mover (by decide)

/-! What is tracked under the name that rules use. -/

/-- The name under which rules find what moves the robot. -/
def mover : Text := "Move"

/-- What is tracked is how the robot moves by what it was told last. -/
def Steered (world : World) : Prop := world.capability? mover = some (.motion world.robot.motion)

/-- The robot was told to stop, and that is what is tracked. -/
structure Halted (world : World) : Prop where
  tracked : world.capability? mover = some (.motion .stationary)
  told : world.robot.lastMove? = some .stopMovement

/-- Nothing changes that has to do with moving. -/
structure Unmoved (before after : World) : Prop where
  tracked : after.capability? mover = before.capability? mover
  told : Untouched .movement before after

theorem capability?_of_install {capability : Capability}
    (installed : after.registry = install receiver capability before.registry) (other : Text) :
    after.capability? other =
      if receiver = other then some capability else before.capability? other := by
  rw [World.capability?, installed, capability?_install]
  rfl

theorem capability?_of_eq (same : after.registry = before.registry) (other : Text) :
    after.capability? other = before.capability? other := by
  rw [World.capability?, same]
  rfl

theorem Refits.capability?_eq {α : Type} {action : Action α}
    {operations : List (Text × Operation)} (refits : Refits receiver operations action)
    {other : Text} (elsewhere : receiver ≠ other) (world : World) :
    (reached (action world)).capability? other = world.capability? other := by
  rcases refits world with same | ⟨capability, _, installed⟩
  · exact capability?_of_eq same other
  · rw [capability?_of_install installed, if_neg elsewhere]

theorem Halted.steered (halted : Halted world) : Steered world := by
  rw [Steered, halted.tracked, Robot.motion, halted.told]
  rfl

theorem unmoved_of_untouched (same : ∀ part, Untouched part before after) :
    Unmoved before after :=
  ⟨capability?_of_eq (same .registry).registry_eq mover, same .movement⟩

theorem unmoved_memory (operation : MemoryOperation) (arguments : List Value) (world : World) :
    Unmoved world (reached (operation.run arguments world)) where
  tracked := capability?_of_eq (spares_memory (by simp) operation arguments world).registry_eq mover
  told := spares_memory (by simp) operation arguments world

theorem Steered.of_unmoved (steered : Steered before) (unmoved : Unmoved before after) :
    Steered after := by
  rw [Steered, unmoved.tracked, Robot.motion, unmoved.told.lastMove?_eq]
  exact steered

theorem Halted.of_unmoved (halted : Halted before) (unmoved : Unmoved before after) :
    Halted after :=
  ⟨unmoved.tracked.trans halted.tracked, unmoved.told.lastMove?_eq.trans halted.told⟩

theorem Ignores.unmoved (ignores : Ignores before after) : Unmoved before after where
  tracked := capability?_of_eq ignores.tracked mover
  told := ⟨trivial, [], by rw [ignores.told, List.append_nil], by simp⟩

theorem Obeys.steered {action : RobotAction} (obeys : Obeys mover action before after)
    (moves : action.isMove = true) : Steered after := by
  rw [Steered, capability?_of_install obeys.tracked, if_pos rfl, obeys.told,
    Robot.motion_act _ moves]

theorem Obeys.halted (obeys : Obeys mover .stopMovement before after) : Halted after where
  tracked := by
    rw [capability?_of_install obeys.tracked, if_pos rfl]
    rfl
  told := by rw [obeys.told, Robot.lastMove?_act _ rfl]

/-- What is found under a name moves the robot if the name is the one for that, and else it
has nothing to do with moving. -/
theorem moves_or_unmoved (reserved : Reserved mover (.motion .stationary) before)
    (offers : before.Offers receiver method operation) {arguments : List Value}
    (writable : receiver = mover → operation.drives = true →
      ∀ argument ∈ arguments, argument.isWritable = true)
    (world : World) :
    (receiver = mover ∧ ∃ action after,
        action.isMove = true ∧ (action.isDrive = true → operation.drives = true) ∧
        operation.run receiver arguments world = .ok .absent after ∧
        Obeys mover action world after) ∨
      Unmoved world (reached (operation.run receiver arguments world)) := by
  have owned := reserved.eq_iff_of_offers offers
  by_cases here : receiver = mover
  · have short := writable here
    rw [here]
    exact (run_cases (owned.mp here) mover short world).imp (⟨rfl, ·⟩) Ignores.unmoved
  · refine .inr ⟨(refits_run operation receiver arguments).capability?_eq here world, ?_⟩
    -- no operation of another kind of capability has to do with moving
    refine spares_run (fun touched => here (owned.mpr ?_)) receiver arguments world
    cases operation with
    | goToLocation | goHome | follow | stopFollowing | stopMovement => rfl
    | _ => simp [Operation.touches] at touched

theorem exists_motion {capability : Capability}
    (kind : capability.operations = (Capability.motion .stationary).operations) :
    ∃ state, capability = .motion state := by
  cases capability with
  | motion state => exact ⟨state, rfl⟩
  | _ => exact absurd kind (by simp [Capability.operations])

/-! Retiring and registering. -/

theorem halted_retired_motion (state : Motion) (world : World) :
    Halted (world.retired (mover, .motion state)) := by
  have obeys : Obeys mover .stopMovement world (world.retired (mover, .motion state)) :=
    ⟨rfl, rfl⟩
  exact obeys.halted

theorem Halted.of_retired {entry : Text × Capability} (halted : Halted world)
    (named : ∀ state, entry.2 = .motion state → entry.1 = mover) :
    Halted (world.retired entry) := by
  rcases entry with ⟨receiver, capability⟩
  by_cases moves : ∃ state, capability = .motion state
  · obtain ⟨state, rfl⟩ := moves
    rw [show receiver = mover from named state rfl]
    exact halted_retired_motion state world
  · have still : ∀ state, capability ≠ .motion state := fun state same => moves ⟨state, same⟩
    have same : Untouched .registry world (world.retired (receiver, capability)) :=
      untouched_retired_of_not_motion still world
    exact halted.of_unmoved
      ⟨capability?_of_eq same.stays mover, untouched_retired_of_not_motion still world⟩

/-- Whatever else is retired before and after, and whatever fails, the robot is stopped. -/
theorem halted_cleanup (reserved : Reserved mover (.motion .stationary) world) :
    Halted (reached (cleanup world)) := by
  have named : ∀ entry ∈ world.registry, ∀ state, entry.2 = .motion state → entry.1 = mover :=
    fun entry member state moves => (reserved.sole entry member).mpr (moves ▸ rfl)
  rcases reserved.exists_capability? with ⟨capability, known, kind⟩
  obtain ⟨state, rfl⟩ := exists_motion kind
  -- the robot is stopped when what moves it is retired, and what is retired later keeps it so
  rcases List.append_of_mem (mem_of_capability? known) with ⟨front, back, all⟩
  rw [cleanup_eq, all, List.foldl_append, List.foldl_cons]
  refine List.foldlRecOn back World.retired (halted_retired_motion state _)
    fun between halted entry member => halted.of_retired (named entry ?_)
  rw [all]
  exact List.mem_append_right _ (List.mem_cons_of_mem _ member)

/-- A registration elsewhere has nothing to do with moving. -/
theorem unmoved_register {name : Text} {capability : Capability}
    (reserved : Reserved mover (.motion .stationary) world)
    (elsewhere : receiverOf name capability ≠ mover) :
    Unmoved world (reached (register name capability world)) := by
  rcases register_cases name capability world with same | ⟨installed, untouched⟩
  · exact unmoved_of_untouched same
  refine ⟨?_, ?_⟩
  · rw [capability?_of_install installed, if_neg elsewhere]
  · have vacated : world.vacated (receiverOf name capability) = world := by
      unfold vacated
      split
      · rename_i old known
        refine retire_of_not_motion (fun state moves => elsewhere ?_) _ world
        exact (reserved.sole _ (mem_of_capability? known)).mpr (moves ▸ rfl)
      · rfl
    have moved := untouched .movement (by simp)
    rwa [vacated] at moved

/-- What moves the robot is stopped before something new takes over; all else that is
registered has nothing to do with moving. -/
theorem halted_or_unmoved_register {name : Text} {capability : Capability}
    (reserved : Reserved mover (.motion .stationary) world)
    (fits : receiverOf name capability = mover ↔
      capability.operations = (Capability.motion .stationary).operations)
    (isNew : ∀ state, capability = .motion state → state = .stationary) :
    Halted (reached (register name capability world)) ∨
      Unmoved world (reached (register name capability world)) := by
  by_cases here : receiverOf name capability = mover
  · obtain ⟨state, rfl⟩ := exists_motion (fits.mp here)
    obtain rfl := isNew state rfl
    rcases register_cases name (.motion .stationary) world with same | ⟨installed, untouched⟩
    · exact .inr (unmoved_of_untouched same)
    · rw [here] at installed untouched
      rcases reserved.exists_capability? with ⟨old, known, kind⟩
      obtain ⟨moved, rfl⟩ := exists_motion kind
      refine .inl ⟨?_, ?_⟩
      · rw [capability?_of_install installed, if_pos rfl]
      · rw [(untouched .movement (by simp)).lastMove?_eq, vacated, known]
        exact Robot.lastMove?_act world.robot rfl
  · exact .inr (unmoved_register reserved here)

end World

end RobotRules
