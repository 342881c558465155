import RobotRules.Proofs.Loop.Life

/-! Quiet loops. Where conditions only read, a tick in which no rule fires leaves the world
as it is, but for the report of a failure. So every tick after it goes the same way, until
something happens from outside, or a batch is run that an earlier tick handed over. -/

namespace RobotRules

open World (withLog host)

namespace Loop

variable {loop other : Loop} {rule : Rule} {rules : List Rule} {state : World}

/-- A pass in which no rule fires ends in the state in which it began. The log makes no
difference to it, and neither does anything else about the loop than its rules. -/
theorem exists_pass_of_quiet (readOnly : ∀ rule ∈ rules, rule.condition.ReadOnly)
    (quiet : loop.fired host rules state = []) : ∃ failure, ∀ other log,
      Loop.fired host other rules (state.withLog log) = [] ∧
        pass host other rules (state.withLog log) = ⟨[], failure, state.withLog log⟩ := by
  -- on the rules that are left: the state is the same before each of them
  induction rules with
  | nil => exact ⟨none, fun _ _ => ⟨rfl, rfl⟩⟩
  | cons rule rest induction =>
      have reads : World.Reads (rule.condition.holds host) :=
        (Expr.reads_evaluate _ (readOnly rule (by simp))).bind fun _ => World.reads_pure _
      rcases reads state with ⟨outcome, each⟩
      have now : rule.condition.holds host state = Act.give outcome state := each state.log
      cases outcome with
      | error failure =>
          refine ⟨some failure, fun other log => ?_⟩
          have failed : rule.condition.holds host (state.withLog log) =
              .error failure (state.withLog log) := each log
          rw [fired, failed, pass, visit_of_error failed]
          exact ⟨rfl, rfl⟩
      | ok held =>
          cases held with
          | true =>
              rw [fired, now] at quiet
              simp [Act.give] at quiet
          | false =>
              rw [fired, now] at quiet
              dsimp only [Act.give] at quiet
              rw [visit_of_not_holds now] at quiet
              rcases induction (fun other member => readOnly other (by simp [member]))
                (by simpa using quiet) with ⟨failure, others⟩
              refine ⟨failure, fun other log => ?_⟩
              have unmet : rule.condition.holds host (state.withLog log) =
                  .ok false (state.withLog log) := each log
              rw [fired, unmet, pass, visit_of_not_holds unmet]
              dsimp only
              rw [(others other log).1, (others other log).2]
              exact ⟨rfl, rfl⟩

end Loop

namespace Engine

/-- The engine after some ticks that left everything as it was and made these reports
each. -/
def waited (rows : Log) (count : Nat) (engine : Engine) : Engine :=
  ⟨engine.world.withLog (engine.world.log ++ (List.replicate count rows).flatten),
    { engine.loop with ticks := engine.loop.ticks + count }⟩

theorem waited_zero (rows : Log) (engine : Engine) : engine.waited rows 0 = engine := by
  simp [waited, withLog]

/-- A quiet tick, whatever ticks there were before. -/
theorem tick_of_quiet {engine : Engine} (parsed : engine.loop.isPending = false)
    (readOnly : ∀ rule ∈ engine.loop.rules, rule.condition.ReadOnly)
    (quiet : engine.loop.fired host engine.loop.rules engine.world = []) {failure : Option Failure}
    (ended : (engine.loop.pass host engine.loop.rules engine.world).failure = failure)
    (count : Nat) :
    let now := engine.waited (Loop.abortLog failure) count
    now.loop.fired host now.loop.rules now.world = [] ∧
      now.tick = engine.waited (Loop.abortLog failure) (count + 1) := by
  rcases Loop.exists_pass_of_quiet readOnly quiet with ⟨reported, passes⟩
  have first : engine.loop.pass host engine.loop.rules engine.world =
      ⟨[], reported, engine.world⟩ := (passes engine.loop engine.world.log).2
  obtain rfl : reported = failure := (congrArg Pass.failure first).symm.trans ended
  intro now
  have ⟨unfired, passed⟩ := passes now.loop now.world.log
  refine ⟨unfired, ?_⟩
  have reloaded : now.loop.reload = (now.loop, []) := by
    rw [Loop.reload, if_neg]
    simpa [now, waited] using parsed
  have reached : now.loop.pass host now.loop.rules now.world = ⟨[], reported, now.world⟩ :=
    passed
  have later : now.world.withLog (now.world.log ++ Loop.abortLog reported) =
      (engine.waited (Loop.abortLog reported) (count + 1)).world := by
    simp [now, waited, withLog, List.replicate_succ']
  rw [tick, Loop.tick, reloaded]
  dsimp only [Loop.recordAll, List.foldl]
  rw [reached, List.append_nil, Loop.reportAbort_eq, later]
  rfl

def Step.isTick : Step → Bool
  | .tick => true
  | _ => false

/-- Nothing is done in the step but ticking: no batch waits that could be run in it. -/
def Step.Idles (loop : Loop) : Step → Prop
  | .tick => True
  | .runOldest => loop.queue = []
  | _ => False

/-- Ticks of which each goes like the one before, in a life of nothing else. -/
theorem run_waited {engine : Engine} {rows : Log}
    (each : ∀ count, (engine.waited rows count).tick = engine.waited rows (count + 1))
    {steps : List Step} (idle : ∀ step ∈ steps, step.Idles engine.loop) (count : Nat) :
    (engine.waited rows count).run steps =
      engine.waited rows (count + steps.countP Step.isTick) := by
  induction steps generalizing count with
  | nil => rfl
  | cons first rest induction =>
      rw [List.forall_mem_cons] at idle
      rw [run, List.foldl_cons, ← run]
      cases first with
      | tick =>
          rw [step, each, induction idle.2, List.countP_cons_of_pos rfl, Nat.add_assoc,
            Nat.add_comm 1]
      | runOldest =>
          have nothing : (engine.waited rows count).loop.queue = [] := idle.1
          rw [step, runOldest, nothing, List.countP_cons_of_neg (by simp [Step.isTick])]
          exact induction idle.2 count
      | _ => exact idle.1.elim

/-- Whether it gives a value or fails, an expression that only reads leaves any world as it
is. If all conditions only read, a tick that has nothing to parse and fires no rule is
followed by ticks that do the same, whatever was handed over before, until a batch is run that
waits. Each adds one to the number of ticks and reports the failure that ended the pass, if
there was one, and nothing else changes. -/
theorem pure_and_quiet (engine : Engine) :
    (∀ (expr : Expr) (world : World), expr.ReadOnly →
      ∃ outcome, expr.evaluate host world = Act.give outcome world) ∧
    ((∀ rule ∈ engine.loop.rules, rule.condition.ReadOnly) → engine.loop.isPending = false →
      engine.loop.fired host engine.loop.rules engine.world = [] →
      ∀ steps : List Step, (∀ step ∈ steps, step.Idles engine.loop) →
        let ended := (engine.loop.pass host engine.loop.rules engine.world).failure
        let later := engine.run steps
        later = engine.waited (Loop.abortLog ended) (steps.countP Step.isTick) ∧
          later.loop.fired host later.loop.rules later.world = []) := by
  constructor
  · intro expr world readOnly
    exact (expr.reads_evaluate readOnly).exists_outcome world
  · intro readOnly parsed quiet steps idle ended later
    have each := tick_of_quiet parsed readOnly quiet rfl
    have reached : later = engine.waited (Loop.abortLog ended) (steps.countP Step.isTick) := by
      have ran := run_waited (fun count => (each count).2) idle 0
      rwa [waited_zero, Nat.zero_add] at ran
    refine ⟨reached, ?_⟩
    rw [reached]
    exact (each _).1

/-- An engine that ticks for the second time. The condition of the second of its rules fails
for want of an argument. -/
def inDoubt : Engine :=
  Engine.tick ⟨World.fresh {} (Robot.idle [] [] false) [],
    Loop.idle {} .inline
      ("[Memory.getStateParam(\"a\") == \"b\" --> TTS.speak(\"c\")] ".toList ++
        "[Locations.locationExists() --> TTS.speak(\"d\")]".toList)⟩

theorem pure_and_quiet_inDoubt :
    (∀ rule ∈ inDoubt.loop.rules, rule.condition.ReadOnly) ∧
      inDoubt.loop.isPending = false ∧
      inDoubt.loop.fired host inDoubt.loop.rules inDoubt.world = [] ∧
      let ended := (inDoubt.loop.pass host inDoubt.loop.rules inDoubt.world).failure
      ended.isSome = true ∧ ∀ count, inDoubt.run (List.replicate count .tick) =
        inDoubt.waited (Loop.abortLog ended) count := by
  have readOnly : ∀ rule ∈ inDoubt.loop.rules, rule.condition.ReadOnly := by decide +kernel
  have parsed : inDoubt.loop.isPending = false := by decide +kernel
  have quiet : inDoubt.loop.fired host inDoubt.loop.rules inDoubt.world = [] :=
    List.isEmpty_iff.mp (by decide +kernel)
  refine ⟨readOnly, parsed, quiet, by decide +kernel, fun count => ?_⟩
  have idle : ∀ step ∈ List.replicate count Step.tick, step.Idles inDoubt.loop := by
    intro step member
    rw [List.eq_of_mem_replicate member]
    trivial
  have ran := ((pure_and_quiet inDoubt).2 readOnly parsed quiet _ idle).1
  rwa [List.countP_replicate, Step.isTick, if_pos rfl] at ran

end Engine

end RobotRules
