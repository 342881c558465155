import RobotRules.Proofs.Capability.Movement
import RobotRules.Proofs.Loop.Upkeep

/-! Moving in the life of an engine. At every moment what is tracked agrees with what the robot
was told last, and a robot that was stopped stays where it is until a call drives it. -/

namespace RobotRules

open Act (reached)
open World (mover Steered Halted Unmoved Reserved)

namespace World

/-- What is tracked of the robot's motion agrees with what the robot was told last. -/
structure TracksMotion (world : World) : Prop where
  either : ∃ motion, world.capability? mover = some (.motion motion) ∧
    ¬(motion.isMoving = true ∧ motion.isFollowing = true)
  state : invoke mover "getMovementState" [] world = .ok (.text
    (match world.robot.lastMove? with
      | some (.goTo ..) => "navigating"
      | some (.beWithMe _) => "following"
      | _ => "stationary")) world
  isMoving : invoke mover "isMoving" [] world = .ok (.boolean
    (match world.robot.lastMove? with
      | some (.goTo ..) => true
      | _ => false)) world
  isFollowing : invoke mover "isFollowing" [] world = .ok (.boolean
    (match world.robot.lastMove? with
      | some (.beWithMe _) => true
      | _ => false)) world
  /-- A call that fails changes neither what is tracked nor the robot. -/
  fails : ∀ method arguments failure after,
    (∀ argument ∈ arguments, argument.isWritable = true) →
      invoke mover method arguments world = .error failure after →
        after.registry = world.registry ∧ after.robot = world.robot
  /-- What is no name of a place is not driven to. -/
  ignores : ∀ location more, (∀ text, location = .text text → Text.isBlank text = true) →
    more.length ≤ 2 → ∃ entry, invoke mover "goToLocation" (location :: more) world =
      .ok .absent (record entry world)
  /-- The robot is stopped when all capabilities are retired, whatever fails. -/
  stops : ∃ after, cleanup world = .ok () after ∧
    after.robot.lastMove? = some .stopMovement ∧
    invoke mover "getMovementState" [] after = .ok (.text "stationary") after

theorem motion_eq {world : World} {receiver : Text} {motion : Motion}
    (tracked : world.capability? receiver = some (.motion motion)) :
    Movement.motion receiver world = .ok motion world := by
  unfold Movement.motion
  rw [Act.get_bind, tracked]
  rfl

/-- What the capability says of the motion that it tracks. -/
theorem invoke_of_tracked (tell : Motion → Value) {world : World} {method : Text}
    {operation : Operation} {motion : Motion}
    (tracked : world.capability? mover = some (.motion motion))
    (offered : (Capability.motion motion).operation? method = some operation)
    (tells : operation.run mover [] = do return tell (← Movement.motion mover)) :
    invoke mover method [] world = .ok (tell motion) world := by
  have offers : world.Offers mover method operation := by
    rw [Offers, tracked, Option.bind_some, offered]
  rw [invoke_of_offers offers, tells]
  exact Act.bind_of_ok _ (motion_eq tracked)

theorem Halted.state {world : World} (halted : Halted world) :
    invoke mover "getMovementState" [] world = .ok (.text "stationary") world :=
  invoke_of_tracked (fun motion => .text motion.name) halted.tracked rfl rfl

theorem Steered.tracksMotion {world : World} (reserved : Reserved mover (.motion .stationary) world)
    (steered : Steered world) : world.TracksMotion where
  either := by
    refine ⟨_, steered, ?_⟩
    unfold Robot.motion
    rcases world.robot.lastMove? with _ | ⟨_ | _⟩ <;>
      simp [RobotAction.motion, Motion.stationary, Motion.navigating, Motion.following]
  state := by
    refine (invoke_of_tracked (fun motion => .text motion.name) steered rfl rfl).trans ?_
    unfold Robot.motion
    rcases world.robot.lastMove? with _ | ⟨_ | _⟩ <;> rfl
  isMoving := by
    refine (invoke_of_tracked (fun motion => .boolean motion.isMoving) steered rfl rfl).trans ?_
    unfold Robot.motion
    rcases world.robot.lastMove? with _ | ⟨_ | _⟩ <;> rfl
  isFollowing := by
    refine (invoke_of_tracked (fun motion => .boolean motion.isFollowing) steered rfl rfl).trans ?_
    unfold Robot.motion
    rcases world.robot.lastMove? with _ | ⟨_ | _⟩ <;> rfl
  fails method arguments failure after writable failed := by
    cases found : (world.capability? mover).bind (Capability.operation? method) with
    | none =>
        have same := invoke_of_none found arguments
        rw [failed] at same
        exact ⟨congrArg registry same, congrArg robot same⟩
    | some operation =>
        have owned := (reserved.eq_iff_of_offers found).mp rfl
        rw [invoke_of_offers found] at failed
        rcases run_cases owned mover (fun _ => writable) world with
          ⟨_, _, _, _, done, _⟩ | ignores
        · cases done.symm.trans failed
        · rw [failed] at ignores
          exact ⟨ignores.tracked, ignores.told⟩
  ignores location more blank few := by
    have refused : Places.clean? location = none := by
      rcases Places.clean?_cases location with refused | ⟨spoken, rfl, visible⟩
      · exact refused
      · exact absurd (blank spoken rfl) visible
    have offers : world.Offers mover "goToLocation" .goToLocation := reserved.offers rfl
    rw [invoke_of_offers offers]
    match more with
    | [] => exact exists_goTo_of_clean? refused mover .absent (.boolean false) world
    | [speed] => exact exists_goTo_of_clean? refused mover speed (.boolean false) world
    | [speed, backwards] => exact exists_goTo_of_clean? refused mover speed backwards world
    | _ :: _ :: _ :: _ => exact absurd few (by simp)
  stops := by
    have halted := halted_cleanup reserved
    rw [cleanup_eq] at halted
    exact ⟨_, cleanup_eq world, halted.told, halted.state⟩

/-- Nothing that is called breaks the agreement unless it drives with an argument that is too
long to be written. -/
theorem maintains_steered : Maintains
    (fun call => call.receiver = mover → ∀ argument ∈ call.arguments, argument.isWritable = true)
    (Reserved mover (.motion .stationary)) fun _ => Steered where
  upholds := upholds_reserved mover _
  operation reserved offers arguments writable _ world _ steered := by
    rcases moves_or_unmoved reserved offers (fun here _ => writable here) world with
      ⟨_, action, after, moves, _, done, obeys⟩ | unmoved
    · rw [done]
      exact obeys.steered moves
    · exact steered.of_unmoved unmoved
  memory _ arguments _ _ world _ steered :=
    steered.of_unmoved (unmoved_memory _ arguments world)
  record entry _ _ steered :=
    steered.of_unmoved (unmoved_of_untouched fun _ => spares_record entry _)

end World

namespace Engine

variable {engine : Engine} {steps : List Step}

theorem unmoved_step {step : Step} (rests : .movement ∉ step.touches) (engine : Engine) :
    Unmoved engine.world (engine.step step).world := by
  refine ⟨?_, untouched_step rests engine⟩
  cases step with
  | hear text reported detection =>
      rw [step, hear, world_act]
      exact (World.refits_hear text _).capability?_eq (by decide) engine.world
  | evaluate | invoke | register | cleanup | tick | runOldest => simp [Step.touches] at rests
  | _ =>
      exact World.capability?_of_eq
        (untouched_step (by simp [Step.touches]) engine).registry_eq mover

/-- What takes over the moving does not move yet. -/
def Step.IsNew : Step → Prop
  | .register _ (.motion state) => state = .stationary
  | _ => True

theorem halted_or_unmoved_register {name : Text} {capability : Capability}
    (fits : (Step.register name capability).Fits mover (.motion .stationary))
    (isNew : (Step.register name capability).IsNew)
    (reserved : Reserved mover (.motion .stationary) engine.world) :
    Halted (engine.step (.register name capability)).world ∨
      Unmoved engine.world (engine.step (.register name capability)).world := by
  rw [step, world_act]
  refine World.halted_or_unmoved_register reserved fits fun state moves => ?_
  subst moves
  exact isNew

theorem steered_step {step : Step} (fits : step.Fits mover (.motion .stationary))
    (isNew : step.IsNew) (writable : ∀ call ∈ engine.calls step, call.receiver = mover →
      ∀ argument ∈ call.arguments, argument.isWritable = true)
    (reserved : Reserved mover (.motion .stationary) engine.world)
    (steered : Steered engine.world) : Steered (engine.step step).world := by
  cases step with
  | evaluate | invoke | tick | runOldest =>
      exact (kept_of_isWork World.maintains_steered rfl reserved steered writable).2
  | register given capability =>
      exact (halted_or_unmoved_register fits isNew reserved).elim Halted.steered
        steered.of_unmoved
  | cleanup =>
      rw [step, world_act]
      exact (World.halted_cleanup reserved).steered
  | _ => exact steered.of_unmoved (unmoved_step (by simp [Step.touches]) engine)

theorem steered_run (fits : ∀ step ∈ steps, step.Fits mover (.motion .stationary) ∧ step.IsNew)
    (writable : ∀ call ∈ engine.callsOf steps, call.receiver = mover →
      ∀ argument ∈ call.arguments, argument.isWritable = true)
    (reserved : Reserved mover (.motion .stationary) engine.world)
    (steered : Steered engine.world) :
    Reserved mover (.motion .stationary) (engine.run steps).world ∧
      Steered (engine.run steps).world := by
  refine kept_run (fun between => Reserved mover (.motion .stationary) between.world ∧
    Steered between.world) ?_ fits writable ⟨reserved, steered⟩
  intro between step fits writable holds
  exact ⟨reserved_step (by decide) fits.1 holds.1,
    steered_step fits.1 fits.2 writable holds.1 holds.2⟩

/-- In the life of an engine what is tracked of the robot's motion agrees at every moment with
what the robot was told last, as long as no integer among the arguments is too long to be
written. -/
theorem tracksMotion_run (config : Config) (locations : List Value) (apps : List Text)
    (keepsLocations : Bool) (replies : Replies) (loop : Loop)
    (fits : ∀ step ∈ steps, step.Fits mover (.motion .stationary) ∧ step.IsNew)
    (writable : ∀ call ∈ callsOf ⟨.fresh config (.idle locations apps keepsLocations) replies, loop⟩
      steps, call.receiver = mover → ∀ argument ∈ call.arguments, argument.isWritable = true) :
    (Engine.run ⟨.fresh config (.idle locations apps keepsLocations) replies, loop⟩
      steps).world.TracksMotion := by
  have reserved := World.reserved_fresh config (.idle locations apps keepsLocations) replies
    (by simp [World.defaults] : .motion .stationary ∈ _)
  have reaches := steered_run fits writable reserved rfl
  exact reaches.2.tracksMotion reaches.1

section Commuting

/-- A rule drives the robot to a place. -/
def commuting : Engine :=
  ⟨.fresh {} (.idle [.text "home base"] [] false) [],
    Loop.idle {} .deferred "[\"a\" == \"a\" --> Move.goToLocation(\"home base\", \"slow\")]"⟩

/-- The rule fires and its batch is run. Then what moves the robot is replaced, and so is the
voice, by something that fails to be retired, and the robot follows. -/
def commute : List Step :=
  [.start, .tick, .runOldest, .register [] (.motion .stationary),
    .register "TTS" (.probe ⟨"Probe", .absent, true, false⟩), .invoke mover "follow" []]

theorem tracksMotion_commute :
    (∀ step ∈ commute, step.Fits mover (.motion .stationary) ∧ step.IsNew) ∧
      (∀ call ∈ commuting.callsOf commute, call.receiver = mover →
        ∀ argument ∈ call.arguments, argument.isWritable = true) ∧
      (commuting.run commute).world.robot.actions =
        [.goTo "home base" false (some .slow), .stopMovement, .beWithMe (some .medium)] ∧
      (commuting.run commute).world.TracksMotion := by
  have fits : ∀ step ∈ commute, step.Fits mover (.motion .stationary) ∧ step.IsNew := by
    simp only [commute, List.forall_mem_cons]
    refine ⟨⟨trivial, trivial⟩, ⟨trivial, trivial⟩, ⟨trivial, trivial⟩, ⟨?_, rfl⟩, ⟨?_, trivial⟩,
      ⟨trivial, trivial⟩, nofun⟩
    · exact iff_of_true rfl rfl
    · exact iff_of_false (by decide) (by decide)
  have writable : ∀ call ∈ commuting.callsOf commute, call.receiver = mover →
      ∀ argument ∈ call.arguments, argument.isWritable = true := by decide +kernel
  exact ⟨fits, writable, by decide +kernel,
    tracksMotion_run {} [.text "home base"] [] false [] commuting.loop fits writable⟩

end Commuting

end Engine

end RobotRules
