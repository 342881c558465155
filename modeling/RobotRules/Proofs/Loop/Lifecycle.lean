import Mathlib.Data.List.Basic
import RobotRules.Proofs.Loop.Course
import RobotRules.Proofs.Loop.Holding
import RobotRules.Proofs.Loop.Preservation

/-! The life of a loop, whatever is asked of it and in whatever order. It is started and
stopped at most once. A start that comes too late is refused before it has done anything, and
the loop sets the state of the interaction only when it starts. -/

namespace RobotRules

/-- The phases that follow a phase at once. -/
inductive Phase.Next : Phase → Phase → Prop
  | start : Next .idle .running
  | stop : Next .running .stopped
  | neverStarted : Next .idle .stopped

theorem Phase.not_next_stopped {phase : Phase} : ¬Next .stopped phase := nofun

theorem Phase.Next.ne_idle {phase next : Phase} (follows : Next phase next) : next ≠ .idle := by
  cases follows <;> decide

/-- How far a loop has come, and with which settings. -/
structure Loop.Standing where
  settings : LoopConfig
  phase : Phase
  ticks : Nat

def Loop.standing (loop : Loop) : Loop.Standing := ⟨loop.settings, loop.phase, loop.ticks⟩

namespace Interleaving

open Control (Server Request Setting Route)
open Loop (Standing)
open Act (reached)

namespace Machine

def world (machine : Machine) : World := machine.server.engine.world

end Machine

/-! What the events do to the standing of a loop. -/

theorem standing_received (loop : Loop) (text? : Option Text) :
    (loop.received text?).standing = loop.standing := by
  cases text? <;> rfl

theorem standing_look (rule : Rule) (tick : Tick) (engine : Engine) :
    (look rule tick engine).1.loop.standing = engine.loop.standing := by
  unfold look
  split <;> rfl

theorem standing_visit (machine : Machine) (index : Nat) :
    (machine.visit index).loop.standing = machine.loop.standing := by
  unfold Machine.visit
  split
  · rfl
  · split
    · rfl
    · exact standing_look ..

theorem standing_endTick (machine : Machine) (index : Nat) :
    (machine.endTick index).loop.standing = machine.loop.standing ∨
      (machine.endTick index).loop.standing =
        { machine.loop.standing with ticks := machine.loop.ticks + 1 } := by
  unfold Machine.endTick
  split
  · exact .inl rfl
  · split
    · exact .inr rfl
    · exact .inl rfl

theorem loop_start {machine : Machine} (idle : machine.loop.phase = .idle) :
    (step machine .start).loop =
      { machine.loop with
        phase := .running
        isPending := false
        rules := (Rule.parseAll machine.loop.text).1 } := by
  have launched : (step machine .start).loop =
      if machine.loop.phase = .idle then machine.loop.begin.1 else machine.loop :=
    loop_launch machine.server.engine
  rw [launched, if_pos idle]
  rfl

theorem step_start_of_ne {machine : Machine} (begun : machine.loop.phase ≠ .idle) :
    step machine .start = machine := by
  have same : launch machine.server.engine = machine.server.engine := if_neg begun
  change { machine with server := { machine.server with engine := _ } } = _
  rw [same]

/-- What an event can do: an idle loop is started, a loop is stopped, a tick is counted. -/
inductive Advances (standing : Standing) : Event → Standing → Prop
  | stay {event : Event} : Advances standing event standing
  | start : standing.phase = .idle →
      Advances standing .start { standing with phase := .running }
  | stop : Advances standing .stop { standing with phase := .stopped }
  | count {index : Nat} :
      Advances standing (.endTick index) { standing with ticks := standing.ticks + 1 }

theorem advances_step (machine : Machine) (event : Event) :
    Advances machine.loop.standing event (step machine event).loop.standing := by
  have stays {event : Event} (same : (step machine event).loop.standing = machine.loop.standing) :
      Advances machine.loop.standing event (step machine event).loop.standing := by
    rw [same]
    exact .stay
  cases event with
  | replace text => exact stays rfl
  | requestReload => exact stays rfl
  | start =>
      by_cases idle : machine.loop.phase = .idle
      · rw [loop_start idle]
        exact .start idle
      · exact stays (by rw [step_start_of_ne idle])
  | stop => exact .stop
  | beginTick =>
      refine stays ?_
      change machine.loop.reload.1.standing = machine.loop.standing
      rw [Loop.reload_fst]
      rfl
  | takeRules => exact stays (congrArg Loop.standing machine.loop_takeRules)
  | visit index => exact stays (standing_visit machine index)
  | endTick index =>
      rcases standing_endTick machine index with same | counted
      · exact stays same
      · change Advances _ _ (machine.endTick index).loop.standing
        rw [counted]
        exact .count
  | drain => exact stays rfl
  | request route request setting =>
      exact stays ((congrArg Loop.standing (machine.loop_answer ..)).trans (standing_received ..))
  | arrive =>
      exact stays ((congrArg Loop.standing (machine.loop_arrive ..)).trans (standing_received ..))

namespace Advances

variable {standing next : Standing} {event : Event} (advances : Advances standing event next)

include advances

theorem phase : next.phase = standing.phase ∨ Phase.Next standing.phase next.phase := by
  cases advances with
  | stay | count => exact .inl rfl
  | start idle => exact .inr (idle ▸ .start)
  | stop =>
      cases was : standing.phase with
      | idle => exact .inr .neverStarted
      | running => exact .inr .stop
      | stopped => exact .inl rfl

theorem exists_of_phase_ne (changed : next.phase ≠ standing.phase) :
    event = .start ∨ event = .stop := by
  cases advances with
  | stay | count => exact absurd rfl changed
  | start => exact .inl rfl
  | stop => exact .inr rfl

theorem settings : next.settings = standing.settings := by
  cases advances <;> rfl

theorem ticks : standing.ticks ≤ next.ticks := by
  cases advances with
  | count => exact Nat.le_succ _
  | _ => exact Nat.le_refl _

theorem exists_endTick (counted : next.ticks ≠ standing.ticks) :
    ∃ index, event = .endTick index ∧ next.ticks = standing.ticks + 1 := by
  cases advances with
  | count => exact ⟨_, rfl, rfl⟩
  | _ => exact absurd rfl counted

theorem stopped (isStopped : standing.phase = .stopped) : next.phase = .stopped := by
  rcases advances.phase with same | follows
  · rw [same, isStopped]
  · rw [isStopped] at follows
    exact absurd follows Phase.not_next_stopped

theorem ne_idle (begun : standing.phase ≠ .idle) : next.phase ≠ .idle := by
  rcases advances.phase with same | follows
  · rwa [same]
  · exact follows.ne_idle

end Advances

theorem stopped_run {machine : Machine} (stopped : machine.loop.phase = .stopped)
    (events : List Event) : (run machine events).loop.phase = .stopped := by
  induction events generalizing machine with
  | nil => exact stopped
  | cons event rest induction => exact induction ((advances_step machine event).stopped stopped)

theorem ticks_le_run (machine : Machine) (events : List Event) :
    machine.loop.ticks ≤ (run machine events).loop.ticks := by
  induction events generalizing machine with
  | nil => exact Nat.le_refl _
  | cons event rest induction =>
      exact Nat.le_trans (advances_step machine event).ticks (induction (step machine event))

/-! What the loop writes by itself. -/

/-- Memory with the state of the interaction that the settings give, if they give one. -/
def seeded (settings : LoopConfig) (world : World) : Memory :=
  if settings.initialState.toValue.isGiven then
    world.memory.write world.clock Memory.interactionState settings.initialState.toValue
  else world.memory

/-- Whether an event neither starts the loop nor has rules or requests do something. -/
def Event.isQuiet : Event → Bool
  | .start | .visit _ | .drain | .request .. => false
  | _ => true

theorem memory_seed (engine : Engine) :
    engine.seed.world.memory = seeded engine.loop.settings engine.world := by
  unfold Engine.seed seeded
  dsimp only
  split <;> rfl

theorem memory_launch {engine : Engine} (idle : engine.loop.phase = .idle) :
    (launch engine).world.memory = seeded engine.loop.settings engine.world := by
  rw [launch, if_pos idle]
  exact (Loop.memory_recordAll ..).trans (memory_seed engine)

/-- What happens to the world apart from a start, a rule, a batch or a request is only that
something is reported. -/
theorem exists_log_of_isQuiet {machine : Machine} {event : Event} (quiet : event.isQuiet = true) :
    ∃ log, (step machine event).world = Loop.recordAll World.host log machine.world := by
  have nothing (same : (step machine event).world = machine.world) :
      ∃ log, (step machine event).world = Loop.recordAll World.host log machine.world := ⟨[], same⟩
  cases event with
  | replace | requestReload | stop => exact nothing rfl
  | beginTick => exact ⟨_, rfl⟩
  | takeRules =>
      refine nothing ?_
      change machine.takeRules.world = _
      unfold Machine.takeRules
      split <;> rfl
  | endTick index =>
      refine nothing ?_
      change (machine.endTick index).world = _
      unfold Machine.endTick
      split
      · rfl
      · split <;> rfl
  | arrive locate address reply =>
      change ∃ log, (machine.arrive locate address reply).world = _
      unfold Machine.arrive
      split
      · rename_i reached
        rcases Result.bind_eq_ok_iff.mp reached with ⟨⟨arrived, loop, log⟩, _, same⟩
        cases same
        exact ⟨log, rfl⟩
      · exact ⟨[], rfl⟩
  | start | visit | drain | request => cases quiet

/-- What an event reaches in the traced world, if it looks at a rule or runs batches. -/
def traced? (machine : Machine) : Event → Option (World × List Dispatch)
  | .visit index =>
    (machine.ticks[index]?.bind Tick.next?).map fun rule =>
      reached (machine.loop.visit World.host.traced rule (machine.world, []))
  | .drain => some (machine.loop.drain World.host.traced (machine.world, [])).2
  | _ => none

/-- Whether an event is the doing of the loop alone: it answers no request, and no operation
is called in it. -/
def IsOwn (machine : Machine) (event : Event) : Prop :=
  (∀ route request setting, event ≠ .request route request setting) ∧
    ∀ state, traced? machine event = some state → state.2 = []

/-- Memory is as it was unless an operation was called. -/
def Untouched (memory : Memory) : World × List Dispatch → Prop :=
  Host.Guarded (fun _ => False) (fun _ => True) (fun _ world => world.memory = memory)

theorem preserves_untouched (memory : Memory) :
    World.host.traced.Preserves (Untouched memory) := by
  refine Host.PreservesWhile.traced ⟨⟨?_, ?_⟩, ?_, ?_⟩
  · exact fun _ _ _ _ _ _ => trivial
  · exact fun _ _ _ => trivial
  · exact fun _ _ _ called => called.elim
  · exact fun _ _ _ same => same

theorem Untouched.memory_eq {memory : Memory} {state : World × List Dispatch}
    (untouched : Untouched memory state) (noCalls : state.2 = []) : state.1.memory = memory :=
  untouched.2 (by simp [noCalls])

theorem exists_log_of_look (rule : Rule) (tick : Tick) (engine : Engine) :
    ∃ log, (look rule tick engine).1.world = Loop.recordAll World.host log
      (reached (engine.loop.visit World.host rule engine.world)) := by
  unfold look
  cases engine.loop.visit World.host rule engine.world with
  | ok batch world => exact ⟨[], rfl⟩
  | error failure world => exact ⟨[_], rfl⟩

/-- A visit does nothing, or what its rule does, and reports a failure. -/
theorem step_visit_cases (machine : Machine) (index : Nat) :
    step machine (.visit index) = machine ∨
      ∃ rule log, traced? machine (.visit index) =
          some (reached (machine.loop.visit World.host.traced rule (machine.world, []))) ∧
        (step machine (.visit index)).world = Loop.recordAll World.host log
          (reached (machine.loop.visit World.host rule machine.world)) := by
  cases atIndex : machine.ticks[index]? with
  | none => exact .inl (by simp only [step, Machine.visit, atIndex])
  | some tick =>
      cases next : tick.next? with
      | none => exact .inl (by simp only [step, Machine.visit, atIndex, next])
      | some rule =>
          rcases exists_log_of_look rule tick machine.server.engine with ⟨log, reported⟩
          refine .inr ⟨rule, log, by simp [traced?, atIndex, next], ?_⟩
          rw [step_visit atIndex next]
          exact reported

/-- Apart from a start and from requests, the world changes only as the operations that rules
call and the log change it. -/
theorem kept_step {kept : World → Prop} (preserves : World.host.Preserves kept)
    {machine : Machine} {event : Event} (noStart : event ≠ .start)
    (noRequest : ∀ route request setting, event ≠ .request route request setting)
    (holds : kept machine.world) : kept (step machine event).world := by
  cases quiet : event.isQuiet with
  | true =>
      rcases exists_log_of_isQuiet quiet with ⟨log, reported⟩
      rw [reported]
      exact Loop.kept_recordAll preserves.record log holds
  | false =>
      cases event with
      | start => exact absurd rfl noStart
      | visit index =>
          rcases step_visit_cases machine index with same | ⟨rule, log, _, reported⟩
          · rwa [same]
          · rw [reported]
            exact Loop.kept_recordAll preserves.record log
              (Loop.keeps_visit preserves machine.loop rule machine.world holds)
      | drain => exact Loop.keeps_runBatches preserves machine.loop.queue holds
      | request route request setting => exact absurd rfl (noRequest route request setting)
      | _ => cases quiet

/-- By itself the loop leaves memory alone, unless it starts. -/
theorem memory_step_of_isOwn {machine : Machine} {event : Event} (own : IsOwn machine event) :
    (step machine event).world.memory = machine.world.memory ∨
      event = .start ∧ machine.loop.phase = .idle := by
  have preserves := preserves_untouched machine.world.memory
  have untouched : Untouched machine.world.memory (machine.world, []) := ⟨trivial, fun _ => rfl⟩
  cases quiet : event.isQuiet with
  | true =>
      rcases exists_log_of_isQuiet quiet with ⟨log, reported⟩
      rw [reported]
      exact .inl (Loop.memory_recordAll ..)
  | false =>
      cases event with
      | start =>
          by_cases idle : machine.loop.phase = .idle
          · exact .inr ⟨rfl, idle⟩
          · exact .inl (by rw [step_start_of_ne idle])
      | visit index =>
          left
          rcases step_visit_cases machine index with same | ⟨rule, log, traced, reported⟩
          · rw [same]
          · have visited := (Loop.follows_visit World.host machine.loop rule).reached_eq
              (machine.world, [])
            have kept := Loop.keeps_visit preserves machine.loop rule _ untouched
            rw [reported, Loop.memory_recordAll]
            exact (congrArg World.memory visited).trans (kept.memory_eq (own.2 _ traced))
      | drain =>
          left
          have ran := Loop.runBatches_traced World.host machine.loop.queue (machine.world, [])
          have kept := Loop.keeps_runBatches preserves machine.loop.queue untouched
          exact (congrArg World.memory ran).symm.trans (kept.memory_eq (own.2 _ rfl))
      | request route request setting => exact absurd rfl (own.1 route request setting)
      | _ => cases quiet

/-! Where the loop writes. -/

/-- The machines that events lead to, each with the event that is next. -/
def moments : Machine → List Event → List (Machine × Event)
  | _, [] => []
  | machine, event :: rest => (machine, event) :: moments (step machine event) rest

/-- What holds at the start and is kept by every event holds at every moment. -/
theorem forall_moments (kept : Machine → Prop)
    (each : ∀ {machine} (event : Event), kept machine → kept (step machine event))
    {machine : Machine} (holds : kept machine) (events : List Event) :
    ∀ moment ∈ moments machine events, kept moment.1 := by
  induction events generalizing machine with
  | nil =>
      intro moment member
      cases member
  | cons event rest induction =>
      exact List.forall_mem_cons.mpr ⟨holds, induction (each event holds)⟩

/-- Whether the loop writes to memory by itself. -/
def Writes (moment : Machine × Event) : Prop :=
  IsOwn moment.1 moment.2 ∧
    (step moment.1 moment.2).world.memory ≠ moment.1.world.memory

theorem eq_start_of_writes {moment : Machine × Event} (writes : Writes moment) :
    moment.2 = .start ∧ moment.1.loop.phase = .idle := by
  rcases memory_step_of_isOwn writes.1 with same | starts
  · exact absurd same writes.2
  · exact starts

theorem pairwise_not_writes (machine : Machine) (events : List Event) :
    (moments machine events).Pairwise fun one other => ¬(Writes one ∧ Writes other) := by
  induction events generalizing machine with
  | nil => exact .nil
  | cons event rest induction =>
      refine .cons (fun other later => ?_) (induction (step machine event))
      rintro ⟨first, second⟩
      rcases eq_start_of_writes first with ⟨rfl, idle⟩
      -- once the loop runs it is never idle again
      have begun : (step machine .start).loop.phase ≠ .idle := by
        rw [loop_start idle]
        nofun
      have never : ∀ moment ∈ moments (step machine .start) rest, moment.1.loop.phase ≠ .idle :=
        forall_moments (fun machine => machine.loop.phase ≠ .idle)
          (fun event begun => (advances_step _ event).ne_idle begun) begun rest
      exact never other later (eq_start_of_writes second).2

/-- A write of the loop sets the state of the interaction to the one that the settings give. -/
theorem memory_of_writes {moment : Machine × Event} (writes : Writes moment) :
    moment.1.loop.settings.initialState.toValue.isGiven = true ∧
      (step moment.1 moment.2).world.memory = moment.1.world.memory.write moment.1.world.clock
        Memory.interactionState moment.1.loop.settings.initialState.toValue := by
  rcases moment with ⟨machine, event⟩
  rcases eq_start_of_writes writes with ⟨rfl, idle⟩
  have written : (step machine .start).world.memory =
      seeded machine.loop.settings machine.world := memory_launch idle
  by_cases given : machine.loop.settings.initialState.toValue.isGiven = true
  · exact ⟨given, written.trans (if_pos given)⟩
  · exact absurd (written.trans (if_neg given)) writes.2

/-! The life of a loop. -/

theorem holding_tick (engine : Engine) :
    engine.tick.loop.holding = engine.loop.reload.1.holding := rfl

theorem ticks_tick (engine : Engine) : engine.tick.loop.ticks = engine.loop.ticks + 1 := by
  have same : engine.loop.reload.1.ticks = engine.loop.ticks := by rw [Loop.reload_fst]
  exact congrArg (· + 1) same

/-- What holds of a loop at every moment of its life. -/
structure IsOrderly (now : Machine) : Prop where
  /-- The phases follow each other. -/
  phase (event : Event) : (step now event).loop.phase = now.loop.phase ∨
    Phase.Next now.loop.phase (step now event).loop.phase
  moved {event : Event} : (step now event).loop.phase ≠ now.loop.phase →
    event = .start ∨ event = .stop
  stopped : now.loop.phase = .stopped →
    ∀ events, (run now events).loop.phase = .stopped
  /-- A start that comes too late is refused and does nothing. -/
  refused : now.loop.phase = .stopped →
    now.server.engine.start = .error .restarted ∧
      Failure.restarted.className = "RuntimeError" ∧ step now .start = now
  ignored : now.loop.phase = .running →
    now.server.engine.start = .ok now.server.engine ∧ step now .start = now
  /-- An idle loop that is started parses its text, and then ticks with the rules in it. -/
  started : now.loop.phase = .idle →
    (step now .start).loop =
        { now.loop with
          phase := .running
          isPending := false
          rules := (Rule.parseAll now.loop.text).1 } ∧
      (step now .start).world.memory = seeded now.loop.settings now.world ∧
      ∃ engine, now.server.engine.start = .ok engine ∧
        engine = (step now .start).server.engine.tick ∧
        engine.loop.holding = (step now .start).loop.holding
  ticks (events : List Event) : now.loop.ticks ≤ (run now events).loop.ticks
  /-- A tick that nothing comes between is one of the engine, and is counted. -/
  ticked : (run now (tickEvents now)).server.engine = now.server.engine.tick ∧
    now.server.engine.tick.loop.ticks = now.loop.ticks + 1
  counted {event : Event} : (step now event).loop.ticks ≠ now.loop.ticks →
    ∃ index, event = .endTick index ∧ (step now event).loop.ticks = now.loop.ticks + 1
  /-- Apart from the start of an idle loop, only rules and requests have the world changed. -/
  leaves {event : Event} {kept : World → Prop} : (event = .start → now.loop.phase ≠ .idle) →
    (∀ route request setting, event ≠ .request route request setting) →
    World.host.Preserves kept → kept now.world → kept (step now event).world

theorem isOrderly (now : Machine) : IsOrderly now where
  phase event := (advances_step now event).phase
  moved changed := (advances_step now _).exists_of_phase_ne changed
  stopped := stopped_run
  refused isStopped := by
    have phase : now.server.engine.loop.phase = .stopped := isStopped
    refine ⟨?_, rfl, step_start_of_ne (by rw [isStopped]; nofun)⟩
    unfold Engine.start
    rw [phase]
  ignored isRunning := by
    have phase : now.server.engine.loop.phase = .running := isRunning
    refine ⟨?_, step_start_of_ne (by rw [isRunning]; nofun)⟩
    unfold Engine.start
    rw [phase]
  started idle := by
    have ticked := engine_run_start idle
    rw [run_cons, engine_run_tickEvents] at ticked
    refine ⟨loop_start idle, memory_launch idle, _, ticked, rfl, ?_⟩
    have same : (step now .start).loop.reload.1 = (step now .start).loop := by
      rw [Loop.reload_fst, loop_start idle]
      rfl
    exact (holding_tick _).trans (congrArg Loop.holding same)
  ticks := ticks_le_run now
  ticked := ⟨engine_run_tickEvents now, ticks_tick now.server.engine⟩
  counted changed := (advances_step now _).exists_endTick changed
  leaves {event} _ begun noRequest preserves holds := by
    by_cases starts : event = .start
    · rwa [starts, step_start_of_ne (begun starts)]
    · exact kept_step preserves starts noRequest holds

/-- A loop is orderly at every moment of its life, and writes to memory by itself at most
once: when it is started while idle with settings that give a state of the interaction. -/
theorem lifecycle_run (world : World) (settings : LoopConfig) (foreground : Foreground)
    (text : Text) (isUp : Bool) (source : Option Value) (events : List Event) :
    let machine := Machine.idle world settings foreground text isUp source
    IsOrderly (run machine events) ∧
      (∀ moment ∈ moments machine events, IsOrderly moment.1 ∧
        (Writes moment →
          moment.2 = .start ∧ moment.1.loop.phase = .idle ∧
            settings.initialState.toValue.isGiven = true ∧
            (step moment.1 moment.2).world.memory =
              moment.1.world.memory.write moment.1.world.clock Memory.interactionState
                settings.initialState.toValue)) ∧
      (moments machine events).Pairwise fun one other => ¬(Writes one ∧ Writes other) := by
  intro machine
  have kept : ∀ moment ∈ moments machine events, moment.1.loop.settings = settings :=
    forall_moments (fun machine => machine.loop.settings = settings)
      (fun event same => (advances_step _ event).settings.trans same) rfl events
  refine ⟨isOrderly _, fun moment member => ⟨isOrderly _, fun writes => ?_⟩,
    pairwise_not_writes machine events⟩
  have written := memory_of_writes writes
  rw [kept moment member] at written
  exact ⟨(eq_start_of_writes writes).1, (eq_start_of_writes writes).2, written⟩

end Interleaving

end RobotRules
