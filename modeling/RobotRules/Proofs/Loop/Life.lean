import RobotRules.Proofs.Loop.Course
import RobotRules.Proofs.Loop.Interleaving
import RobotRules.Proofs.Loop.Preservation

/-! The life of an engine, one step at a time and in any order: the robot reports something,
an expression is evaluated, an operation is asked for directly, capabilities are registered
or retired, and the loop is driven. The batches that ticks hand over wait in a queue, and
each is run at a later moment. A life makes calls, and what the calls that it makes preserve
is preserved by it. -/

namespace RobotRules.Engine

open Act (reached)

theorem world_act {α : Type} (action : World.Action α) (engine : Engine) :
    (engine.act action).2.world = reached (action engine.world) := by
  unfold act
  cases action engine.world <;> rfl

/-- Runs the oldest of the batches that wait. -/
def runOldest (engine : Engine) : Engine :=
  match engine.loop.queue with
  | [] => engine
  | batch :: rest =>
    ⟨Loop.runBatch World.host batch engine.world, { engine.loop with queue := rest }⟩

/-- What can happen to an engine. -/
inductive Step where
  /-- The robot hears its name. -/
  | wakeUp
  | hear (text : Text) (reported : Option Text) (detection : Language.Detection)
  /-- The clock is set to a time, which may be an earlier one. -/
  | clock (now : Int)
  | evaluate (expr : Expr)
  /-- A capability is asked for an operation, not by a rule. -/
  | invoke (receiver operation : Text) (arguments : List Value)
  | register (name : Text) (capability : Capability)
  | cleanup
  | replace (text : Text)
  /-- An idle loop begins. Its ticks are steps of their own. -/
  | start
  | tick
  | runOldest
  | stop

def step (engine : Engine) : Step → Engine
  | .wakeUp => (engine.act Event.wakeUp).2
  | .hear text reported detection => (engine.hear text reported detection).2
  | .clock now => { engine with world := { engine.world with clock := now } }
  | .evaluate expr => (engine.act (expr.evaluate World.host)).2
  | .invoke receiver operation arguments =>
    (engine.act (World.invoke receiver operation arguments)).2
  | .register name capability => (engine.act (World.register name capability)).2
  | .cleanup => (engine.act World.cleanup).2
  | .replace text => engine.replace text
  | .start => Interleaving.launch engine
  | .tick => engine.tick
  | .runOldest => engine.runOldest
  | .stop => engine.stop

/-- What steps make of an engine, one after the other. -/
def run (engine : Engine) (steps : List Step) : Engine := steps.foldl step engine

/-! The steps of a life are those that the engine takes otherwise. -/

theorem drain_eq_run (engine : Engine) :
    engine.drain = engine.run (List.replicate engine.loop.queue.length .runOldest) := by
  rcases engine with ⟨world, loop⟩
  rcases loop with ⟨settings, foreground, text, isPending, rules, phase, ticks, queue, isClosed⟩
  induction queue generalizing world with
  | nil => rfl
  | cons batch rest induction => exact induction (Loop.runBatch World.host batch world)

theorem start_eq_run {engine : Engine} (idle : engine.loop.phase = .idle) :
    engine.start = .ok (engine.run [.start, .tick]) := by
  have launched : engine.run [.start, .tick] = (Interleaving.launch engine).tick := rfl
  rw [launched, Interleaving.launch, if_pos idle, start, idle]

/-! The calls that are made. -/

/-- What a step reaches in the traced world, if it evaluates anything. -/
def traced? (engine : Engine) : Step → Option (World × List Dispatch)
  | .evaluate expr => some (reached (expr.evaluate World.host.traced (engine.world, [])))
  | .tick => some (engine.loop.tick World.host.traced (engine.world, [])).2
  | .runOldest =>
    engine.loop.queue.head?.map fun batch =>
      Loop.runBatch World.host.traced batch (engine.world, [])
  | _ => none

/-- The calls that a step makes, in order. -/
def calls (engine : Engine) : Step → List Dispatch
  | .invoke receiver operation arguments =>
    if ((engine.world.capability? receiver).bind (Capability.operation? operation)).isSome then
      [⟨receiver, operation, arguments⟩]
    else []
  | step => ((engine.traced? step).map Prod.snd).getD []

/-- The calls that are made in the course of some steps. -/
def callsOf : Engine → List Step → List Dispatch
  | _, [] => []
  | engine, step :: rest => engine.calls step ++ callsOf (engine.step step) rest

/-- What is kept by every step that fits, as long as the calls that it makes are allowed, is kept
in a life of such steps and calls. -/
theorem kept_run {fits : Step → Prop} {allowed : Dispatch → Prop} (kept : Engine → Prop)
    (each : ∀ {engine : Engine} {step : Step}, fits step →
      (∀ call ∈ engine.calls step, allowed call) → kept engine → kept (engine.step step))
    {engine : Engine} {steps : List Step} (fit : ∀ step ∈ steps, fits step)
    (all : ∀ call ∈ engine.callsOf steps, allowed call) (holds : kept engine) :
    kept (engine.run steps) := by
  induction steps generalizing engine with
  | nil => exact holds
  | cons step rest induction =>
      rw [List.forall_mem_cons] at fit
      rw [callsOf, List.forall_mem_append] at all
      exact induction fit.2 all.2 (each fit.1 all.1 holds)

theorem calls_of_traced? {engine : Engine} {step : Step} {state : World × List Dispatch}
    (traced : engine.traced? step = some state) : engine.calls step = state.2 := by
  cases step with
  | evaluate | tick | runOldest => simp [calls, traced]
  | _ => cases traced

theorem world_step_of_traced? {engine : Engine} {step : Step} {state : World × List Dispatch}
    (traced : engine.traced? step = some state) : (engine.step step).world = state.1 := by
  cases step with
  | evaluate expr =>
      obtain rfl := Option.some.inj traced
      rw [Engine.step, world_act]
      exact (Expr.follows_evaluate World.host expr).reached_eq (engine.world, [])
  | tick =>
      obtain rfl := Option.some.inj traced
      exact congrArg Prod.snd (Loop.tick_traced World.host engine.loop (engine.world, []))
  | runOldest =>
      rcases Option.map_eq_some_iff.mp traced with ⟨batch, oldest, rfl⟩
      rcases List.head?_eq_some_iff.mp oldest with ⟨rest, queue⟩
      rw [Engine.step, runOldest, queue]
      exact (Loop.runBatch_traced World.host batch (engine.world, [])).symm
  | _ => cases traced

section Preserved

variable {allowed : Dispatch → Prop} {shape : World → Prop} {kept : List Dispatch → World → Prop}
  (preserves : World.host.PreservesWhile allowed shape kept)

include preserves

/-- What evaluates keeps the invariant as long as the calls that it makes are allowed. -/
theorem kept_of_traced? {engine : Engine} {step : Step} {state : World × List Dispatch}
    (traced : engine.traced? step = some state) (shaped : shape engine.world)
    (holds : kept [] engine.world) (all : ∀ call ∈ state.2, allowed call) :
    shape (engine.step step).world ∧ kept state.2 (engine.step step).world := by
  have guarded : Host.Guarded allowed shape kept (engine.world, []) := ⟨shaped, fun _ => holds⟩
  suffices reached : Host.Guarded allowed shape kept state by
    rw [world_step_of_traced? traced]
    exact ⟨reached.1, reached.2 all⟩
  cases step with
  | evaluate expr =>
      obtain rfl := Option.some.inj traced
      exact Expr.keeps_evaluate preserves.traced expr _ guarded
  | tick =>
      obtain rfl := Option.some.inj traced
      exact Loop.keeps_tick preserves.traced engine.loop guarded
  | runOldest =>
      rcases Option.map_eq_some_iff.mp traced with ⟨batch, _, rfl⟩
      exact Loop.keeps_runBatch preserves.traced batch guarded
  | _ => cases traced

end Preserved

end RobotRules.Engine
