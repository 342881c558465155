import RobotRules.Control.Session
import RobotRules.Proofs.Loop.Movement

/-! What happens after a shutdown. The robot is stopped then, and it stays where it is until a
call drives it. The batches that still wait are not called off, so such a call may come from
one of them. -/

namespace RobotRules

open Act (reached)
open World (mover Halted Reserved)

/-- A call that drives the robot unless it fails. -/
def Dispatch.drives (call : Dispatch) : Bool :=
  call.receiver == mover &&
    ((Capability.motion .stationary).operation? call.method).any Operation.drives

namespace World

variable {world before after : World}

/-- The robot has been stopped, and since an earlier moment it was not driven. -/
structure Rests (drives : List RobotAction) (world : World) : Prop where
  halted : Halted world
  undriven : world.robot.drives = drives

theorem Rests.of_unmoved {drives : List RobotAction} (rests : Rests drives before)
    (unmoved : Unmoved before after) : Rests drives after :=
  ⟨rests.halted.of_unmoved unmoved, unmoved.told.drives_eq.trans rests.undriven⟩

theorem drives_act_stopMovement (robot : Robot) :
    (robot.act .stopMovement).drives = robot.drives := by
  rw [Robot.drives, Robot.act, List.filter_append]
  exact List.append_nil _

theorem drives_retire (receiver : Text) (capability : Capability) (world : World) :
    (reached (retire receiver capability world)).robot.drives = world.robot.drives := by
  by_cases moves : ∃ state, capability = .motion state
  · obtain ⟨state, rfl⟩ := moves
    exact drives_act_stopMovement world.robot
  · rw [retire_of_not_motion fun state same => moves ⟨state, same⟩]

theorem drives_retired (world : World) (entry : Text × Capability) :
    (world.retired entry).robot.drives = world.robot.drives := by
  have retires := drives_retire entry.1 entry.2 world
  unfold retired
  split
  · rename_i done
    rwa [done] at retires
  · rename_i failed
    rwa [failed] at retires

theorem drives_cleanup (world : World) :
    (reached (cleanup world)).robot.drives = world.robot.drives := by
  rw [cleanup_eq]
  exact List.foldlRecOn (motive := fun between => between.robot.drives = world.robot.drives)
    world.registry retired rfl fun between same entry _ =>
      (drives_retired between entry).trans same

theorem drives_register (name : Text) (capability : Capability) (world : World) :
    (reached (register name capability world)).robot.drives = world.robot.drives := by
  rcases register_cases name capability world with same | ⟨_, untouched⟩
  · exact (same .movement).drives_eq
  · refine (untouched .movement (by simp)).drives_eq.trans ?_
    unfold vacated
    split
    · exact drives_retire _ _ world
    · rfl

/-- As long as no call drives the robot, it rests. -/
theorem maintains_rests (drives : List RobotAction) :
    Maintains (fun call => call.drives = false) (Reserved mover (.motion .stationary))
      fun _ => Rests drives where
  upholds := upholds_reserved mover _
  operation {receiver method operation _} reserved offers arguments quiet _ world _ rests := by
    have parked : receiver = mover → operation.drives = false := fun here => by
      subst here
      simpa [Dispatch.drives, reserved.operation?_eq offers] using quiet
    rcases moves_or_unmoved reserved offers
        (fun here moving => absurd moving (by simp [parked here])) world with
      ⟨here, action, after, moves, drives, done, obeys⟩ | unmoved
    · -- it was asked for something about moving, so that can only be to stop
      have stops : action = .stopMovement := by
        have still := parked here
        cases action with
        | stopMovement => rfl
        | goTo | beWithMe => exact absurd (drives rfl) (by simp [still])
        | _ => cases moves
      subst stops
      have undriven : after.robot.drives = world.robot.drives := by
        rw [obeys.told, drives_act_stopMovement]
      rw [done]
      exact ⟨obeys.halted, undriven.trans rests.undriven⟩
    · exact rests.of_unmoved unmoved
  memory _ arguments _ _ world _ rests :=
    rests.of_unmoved (unmoved_memory _ arguments world)
  record entry _ _ rests := rests.of_unmoved (unmoved_of_untouched fun _ => spares_record entry _)

end World

namespace Engine

open World (Rests)

variable {engine : Engine} {drives : List RobotAction}

theorem rests_step {step : Step} (fits : step.Fits mover (.motion .stationary))
    (isNew : step.IsNew) (quiet : ∀ call ∈ engine.calls step, call.drives = false)
    (reserved : Reserved mover (.motion .stationary) engine.world)
    (rests : Rests drives engine.world) : Rests drives (engine.step step).world := by
  cases step with
  | evaluate | invoke | tick | runOldest =>
      exact (kept_of_isWork (World.maintains_rests drives) rfl reserved rests quiet).2
  | register given capability =>
      refine ⟨(halted_or_unmoved_register fits isNew reserved).elim id rests.halted.of_unmoved, ?_⟩
      rw [step, world_act]
      exact (World.drives_register given capability _).trans rests.undriven
  | cleanup =>
      rw [step, world_act]
      exact ⟨World.halted_cleanup reserved, (World.drives_cleanup _).trans rests.undriven⟩
  | _ => exact rests.of_unmoved (unmoved_step (by simp [Step.touches]) engine)

theorem rests_run {steps : List Step}
    (fits : ∀ step ∈ steps, step.Fits mover (.motion .stationary) ∧ step.IsNew)
    (quiet : ∀ call ∈ engine.callsOf steps, call.drives = false)
    (reserved : Reserved mover (.motion .stationary) engine.world)
    (rests : Rests drives engine.world) :
    Reserved mover (.motion .stationary) (engine.run steps).world ∧
      Rests drives (engine.run steps).world := by
  refine kept_run (fun between => Reserved mover (.motion .stationary) between.world ∧
    Rests drives between.world) ?_ fits quiet ⟨reserved, rests⟩
  intro between step fits quiet holds
  exact ⟨reserved_step (by decide) fits.1 holds.1,
    rests_step fits.1 fits.2 quiet holds.1 holds.2⟩

theorem reserved_run {name : Text} {kind : Capability} {steps : List Step}
    (apart : Event.recognizer = name ↔
      (Capability.recognition false).operations = kind.operations)
    (fits : ∀ step ∈ steps, step.Fits name kind)
    (reserved : Reserved name kind engine.world) : Reserved name kind (engine.run steps).world :=
  kept_run (fun between => Reserved name kind between.world)
    (fun fits _ holds => reserved_step apart fits holds) fits (fun _ _ => trivial) reserved

end Engine

namespace Control

open Engine (Step)

theorem engine_shutDown (server : Server) :
    (shutDown server).2.engine = server.engine.run [.stop, .cleanup] := rfl

/-- A server that is shut down at any moment leaves the robot stopped, and the robot rests as
long as none of the calls that are made later drives it. -/
theorem rests_after_shutDown {server : Server} (config : Config) (locations : List Value)
    (apps : List Text) (keepsLocations : Bool) (replies : Replies) (loop : Loop)
    {before later : List Step}
    (lived : server.engine =
      Engine.run ⟨.fresh config (.idle locations apps keepsLocations) replies, loop⟩ before)
    (fits : ∀ step ∈ before ++ later, step.Fits mover (.motion .stationary) ∧ step.IsNew)
    (quiet : ∀ call ∈ (shutDown server).2.engine.callsOf later, call.drives = false) :
    Halted (shutDown server).2.engine.world ∧
      Halted ((shutDown server).2.engine.run later).world ∧
      ((shutDown server).2.engine.run later).world.robot.drives =
        (shutDown server).2.engine.world.robot.drives := by
  have reserved : Reserved mover (.motion .stationary) server.engine.world := by
    rw [lived]
    refine Engine.reserved_run (by decide)
      (fun step member => (fits step (List.mem_append_left _ member)).1) ?_
    exact World.reserved_fresh config _ replies (by simp [World.defaults] : .motion .stationary ∈ _)
  have halted : Halted (shutDown server).2.engine.world := by
    rw [engine_shutDown]
    exact Engine.world_act World.cleanup _ ▸ World.halted_cleanup reserved
  have reservedAfter : Reserved mover (.motion .stationary) (shutDown server).2.engine.world := by
    rw [engine_shutDown]
    exact Engine.reserved_run (by decide) (by simp [Step.Fits]) reserved
  have rests := Engine.rests_run (fun step member => fits step (List.mem_append_right _ member))
    quiet reservedAfter ⟨halted, rfl⟩
  exact ⟨halted, rests.2.halted, rests.2.undriven⟩

section Parking

/-- A server whose rule sends the robot home, and whose loop has a worker of its own. -/
def parking : Server :=
  ⟨⟨.fresh {} (.idle [.text "home base"] [] false) [],
    Loop.idle {} .own "[\"a\" == \"a\" --> Move.goHome()]"⟩, true, none⟩

/-- The server after one tick, whose batch still waits. -/
def parked : Server := { parking with engine := parking.engine.run [.start, .tick] }

theorem rests_after_shutDown_parked :
    (∀ step ∈ ([.start, .tick] ++ [.wakeUp, .invoke mover "isMoving" []] : List Step),
        step.Fits mover (.motion .stationary) ∧ step.IsNew) ∧
      (∀ call ∈ (shutDown parked).2.engine.callsOf [.wakeUp, .invoke mover "isMoving" []],
        call.drives = false) ∧
      Halted (shutDown parked).2.engine.world ∧
      Halted ((shutDown parked).2.engine.run [.wakeUp, .invoke mover "isMoving" []]).world ∧
      ((shutDown parked).2.engine.run [.wakeUp, .invoke mover "isMoving" []]).world.robot.drives =
        (shutDown parked).2.engine.world.robot.drives := by
  have fits : ∀ step ∈ ([.start, .tick] ++ [.wakeUp, .invoke mover "isMoving" []] : List Step),
      step.Fits mover (.motion .stationary) ∧ step.IsNew := by
    simp [Step.Fits, Step.IsNew]
  have quiet : ∀ call ∈ (shutDown parked).2.engine.callsOf [.wakeUp, .invoke mover "isMoving" []],
      call.drives = false := by
    decide +kernel
  exact ⟨fits, quiet, rests_after_shutDown {} [.text "home base"] [] false [] parking.engine.loop
    rfl fits quiet⟩

/-- The batch is not called off by the shutdown. When the worker gets to it, the robot drives
home. -/
theorem not_rests_parked :
    (shutDown parked).2.engine.world.robot.actions = [.stopMovement] ∧
      ((shutDown parked).2.engine.run [.runOldest]).world.robot.actions =
        [.stopMovement, .goTo Robot.homeBase false none] ∧
      ¬Halted ((shutDown parked).2.engine.run [.runOldest]).world := by
  have drives : ((shutDown parked).2.engine.run [.runOldest]).world.robot.actions =
      [.stopMovement, .goTo Robot.homeBase false none] := by
    decide +kernel
  refine ⟨by decide +kernel, drives, fun halted => ?_⟩
  have told := halted.told
  rw [Robot.lastMove?, drives] at told
  cases told

end Parking

end Control

end RobotRules
