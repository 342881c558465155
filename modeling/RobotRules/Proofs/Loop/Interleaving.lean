import Mathlib.Data.List.Basic
import RobotRules.Control.Server

/-! What can happen to a server, one thing at a time and in any order. A tick is not one
step: it first has the pending text parsed, then takes the rules in force, then looks at
the rules it took one after the other, and everything else can come in between. -/

namespace RobotRules.Interleaving

open Control (Server Request Setting Route)

/-- A tick that has taken its rules. -/
structure Tick where
  rules : List Rule
  /-- How many of the rules were looked at. -/
  seen : Nat
  isAborted : Bool
  isOver : Bool

namespace Tick

def begin (rules : List Rule) : Tick := ⟨rules, 0, false, false⟩

def next? (tick : Tick) : Option Rule :=
  if tick.isAborted || tick.isOver then none else tick.rules[tick.seen]?

/-- Whether all that is left of the tick is to count it. -/
def isDone (tick : Tick) : Bool :=
  !tick.isOver && (tick.isAborted || tick.rules.length ≤ tick.seen)

end Tick

/-- A server and the ticks of its loop. -/
structure Machine where
  server : Server
  /-- How many ticks have had the pending text parsed and take their rules next. -/
  begun : Nat
  /-- The ticks that have taken their rules, the oldest one first. -/
  ticks : List Tick

namespace Machine

def loop (machine : Machine) : Loop := machine.server.engine.loop

def drive (change : Engine → Engine) (machine : Machine) : Machine :=
  { machine with
    server := { machine.server with engine := change machine.server.engine } }

/-- Puts what came of a tick in place of the engine and the tick. -/
def put (index : Nat) (engine : Engine) (tick : Tick) (machine : Machine) : Machine :=
  { machine with
    server := { machine.server with engine := engine }
    ticks := machine.ticks.set index tick }

/-- A machine whose loop has not done anything yet. -/
def idle (world : World) (settings : LoopConfig) (foreground : Foreground) (text : Text)
    (isUp : Bool) (source : Option Value) : Machine :=
  ⟨⟨⟨world, Loop.idle settings foreground text⟩, isUp, source⟩, 0, []⟩

end Machine

/-- An idle loop starts and parses its text. Its first tick comes later. -/
def launch (engine : Engine) : Engine :=
  if engine.loop.phase = .idle then
    let engine := engine.seed
    let (loop, log) := engine.loop.begin
    Engine.recordAll log { engine with loop := loop }
  else engine

def refresh (engine : Engine) : Engine :=
  let (loop, log) := engine.loop.reload
  Engine.recordAll log { engine with loop := loop }

/-- The engine and the tick after the tick has looked at a rule. -/
def look (rule : Rule) (tick : Tick) (engine : Engine) : Engine × Tick :=
  match engine.loop.visit World.host rule engine.world with
  | .ok batch world =>
    (⟨world, { engine.loop with queue := engine.loop.queue ++ batch.toList }⟩,
      { tick with seen := tick.seen + 1 })
  | .error failure world =>
    (⟨Loop.reportAbort World.host (some failure) world, engine.loop⟩,
      { tick with seen := tick.seen + 1, isAborted := true })

def count (engine : Engine) : Engine :=
  { engine with loop := { engine.loop with ticks := engine.loop.ticks + 1 } }

namespace Machine

def requestReload (machine : Machine) : Machine :=
  machine.drive fun engine => { engine with loop := engine.loop.requestReload }

def beginTick (machine : Machine) : Machine :=
  { machine.drive refresh with begun := machine.begun + 1 }

def takeRules (machine : Machine) : Machine :=
  match machine.begun with
  | 0 => machine
  | begun + 1 =>
    { machine with begun := begun, ticks := machine.ticks ++ [.begin machine.loop.rules] }

def visit (index : Nat) (machine : Machine) : Machine :=
  match machine.ticks[index]? with
  | none => machine
  | some tick =>
    match tick.next? with
    | none => machine
    | some rule =>
      let (engine, tick) := look rule tick machine.server.engine
      machine.put index engine tick

def endTick (index : Nat) (machine : Machine) : Machine :=
  match machine.ticks[index]? with
  | none => machine
  | some tick =>
    if tick.isDone then
      machine.put index (count machine.server.engine) { tick with isOver := true }
    else machine

def answer (route : Route) (request : Request) (setting : Setting) (machine : Machine) :
    Machine :=
  match machine.server.follow request setting route with
  | .ok (_, server) => { machine with server := server }
  | .error _ => machine

def arrive (locate : Service.Locator) (address : Value) (reply : Reply) (machine : Machine) :
    Machine :=
  match machine.server.engine.replaceFrom locate address reply with
  | .ok (_, engine) => machine.drive fun _ => engine
  | .error _ => machine

end Machine

inductive Event where
  | replace (text : Text)
  | requestReload
  | start
  | stop
  /-- A tick has the pending text parsed. -/
  | beginTick
  /-- A tick that has begun takes the rules in force. -/
  | takeRules
  /-- A tick looks at its next rule. -/
  | visit (index : Nat)
  /-- A tick that is done is counted. -/
  | endTick (index : Nat)
  | drain
  | request (route : Route) (request : Request) (setting : Setting)
  /-- A service of rules replies to a reload, whoever asked for it. -/
  | arrive (locate : Service.Locator) (address : Value) (reply : Reply)

/-- What an event makes of a machine. An event that cannot happen changes nothing. -/
def step (machine : Machine) : Event → Machine
  | .replace text => machine.drive (Engine.replace text)
  | .requestReload => machine.requestReload
  | .start => machine.drive launch
  | .stop => machine.drive Engine.stop
  | .beginTick => machine.beginTick
  | .takeRules => machine.takeRules
  | .visit index => machine.visit index
  | .endTick index => machine.endTick index
  | .drain => machine.drive Engine.drain
  | .request route request setting => machine.answer route request setting
  | .arrive locate address reply => machine.arrive locate address reply

/-- What events make of a machine, one after the other. -/
def run (machine : Machine) (events : List Event) : Machine := events.foldl step machine

theorem run_cons (machine : Machine) (event : Event) (rest : List Event) :
    run machine (event :: rest) = run (step machine event) rest := rfl

theorem run_append (machine : Machine) (events others : List Event) :
    run machine (events ++ others) = run (run machine events) others :=
  List.foldl_append

/-! A tick that nothing comes between. -/

/-- The queue makes no difference to what a rule does. -/
theorem pass_with_queue {σ : Type} (host : Host σ) (loop : Loop) (queue : List Batch)
    (rules : List Rule) (state : σ) :
    Loop.pass host { loop with queue := queue } rules state =
      Loop.pass host loop rules state := by
  induction rules generalizing state with
  | nil => rfl
  | cons rule rest induction =>
      have same : Loop.visit host { loop with queue := queue } rule state =
          Loop.visit host loop rule state := rfl
      unfold Loop.pass
      rw [same]
      split
      · rfl
      · rw [induction]

/-- The engine after a pass over rules. -/
def passed (rules : List Rule) (engine : Engine) : Engine :=
  let result := Loop.pass World.host engine.loop rules engine.world
  ⟨Loop.reportAbort World.host result.failure result.state,
    { engine.loop with queue := engine.loop.queue ++ result.batches }⟩

namespace Machine

theorem put_put (machine : Machine) (index : Nat) (engine next : Engine) (tick last : Tick) :
    (machine.put index engine tick).put index next last = machine.put index next last := by
  simp only [put, List.set_set]

theorem getElem?_ticks_put {machine : Machine} {index : Nat} (engine : Engine) (tick : Tick)
    (within : index < machine.ticks.length) :
    (machine.put index engine tick).ticks[index]? = some tick := by
  simp [put, within]

theorem put_of_found {machine : Machine} {index : Nat} {tick : Tick}
    (found : machine.ticks[index]? = some tick) :
    machine.put index machine.server.engine tick = machine := by
  rcases List.getElem?_eq_some_iff.mp found with ⟨within, atIndex⟩
  rw [put, ← atIndex, List.set_getElem_self]

end Machine

theorem step_visit {machine : Machine} {index : Nat} {tick : Tick} {rule : Rule}
    (found : machine.ticks[index]? = some tick) (next : tick.next? = some rule) :
    step machine (.visit index) =
      machine.put index (look rule tick machine.server.engine).1
        (look rule tick machine.server.engine).2 := by
  simp only [step, Machine.visit, found, next]

theorem step_endTick {machine : Machine} {index : Nat} {tick : Tick}
    (found : machine.ticks[index]? = some tick) (done : tick.isDone = true) :
    step machine (.endTick index) =
      machine.put index (count machine.server.engine) { tick with isOver := true } := by
  simp only [step, Machine.endTick, found, done, if_true]

theorem run_visits_of_next_none {machine : Machine} {index : Nat} {tick : Tick}
    (found : machine.ticks[index]? = some tick) (none : tick.next? = none) (count : Nat) :
    run machine (List.replicate count (.visit index)) = machine := by
  induction count with
  | zero => rfl
  | succ count induction =>
      have same : step machine (.visit index) = machine := by
        simp only [step, Machine.visit, found, none]
      rw [List.replicate_succ, run_cons, same]
      exact induction

/-- Looking at the first rule ends the pass if the rule fails, and else the pass goes
on with the others. -/
theorem look_cases (rule : Rule) (rest : List Rule) (tick : Tick) (engine : Engine) :
    look rule tick engine =
        (passed (rule :: rest) engine,
          { tick with seen := tick.seen + 1, isAborted := true }) ∨
      (look rule tick engine).2 = { tick with seen := tick.seen + 1 } ∧
        passed rest (look rule tick engine).1 = passed (rule :: rest) engine := by
  unfold look passed
  rw [Loop.pass]
  cases engine.loop.visit World.host rule engine.world with
  | error failure world =>
      left
      simp only [List.append_nil]
  | ok batch world =>
      right
      simp only [pass_with_queue, List.append_assoc, and_self]

/-- Looking at all the rules that are left is a pass over them. -/
theorem run_visits {rest : List Rule} {machine : Machine} {index : Nat} {tick : Tick}
    (found : machine.ticks[index]? = some tick)
    (left : tick.rules.drop tick.seen = rest)
    (runs : tick.isAborted = false) (counts : tick.isOver = false) :
    ∃ last : Tick, last.isDone = true ∧
      run machine (List.replicate rest.length (.visit index)) =
        machine.put index (passed rest machine.server.engine) last := by
  -- Every visit changes the machine and the tick; what carries over is only that the
  -- rules behind those seen are the rest.
  induction rest generalizing machine tick with
  | nil =>
      have idle : passed [] machine.server.engine = machine.server.engine := by
        simp only [passed, Loop.pass, List.append_nil]
        rfl
      refine ⟨tick, by simpa [Tick.isDone, runs, counts] using left, ?_⟩
      rw [idle, Machine.put_of_found found]
      rfl
  | cons rule rest induction =>
      have within : index < machine.ticks.length :=
        (List.getElem?_eq_some_iff.mp found).1
      have next : tick.next? = some rule := by
        simp [Tick.next?, runs, counts, ← List.head?_drop, left]
      have later : tick.rules.drop (tick.seen + 1) = rest := by
        rw [← List.tail_drop, left, List.tail_cons]
      rw [List.length_cons, List.replicate_succ, run_cons, step_visit found next]
      rcases look_cases rule rest tick machine.server.engine with looked | ⟨goesOn, others⟩
      · -- The rule failed, so the visits that are left find nothing to look at.
        rw [looked]
        refine ⟨_, ?_, run_visits_of_next_none (Machine.getElem?_ticks_put _ _ within) ?_ _⟩
        · simp [Tick.isDone, counts]
        · simp [Tick.next?]
      · have found := Machine.getElem?_ticks_put
          (look rule tick machine.server.engine).1
          (look rule tick machine.server.engine).2 within
        rcases induction found (by rw [goesOn]; exact later) (by rw [goesOn]; exact runs)
          (by rw [goesOn]; exact counts) with ⟨last, done, equal⟩
        refine ⟨last, done, equal.trans ?_⟩
        rw [Machine.put_put]
        exact congrArg (machine.put index · last) others

/-- The events of a tick, with nothing between them. -/
def tickEvents (machine : Machine) : List Event :=
  let index := machine.ticks.length
  let loop := (refresh machine.server.engine).loop
  .beginTick :: .takeRules :: (List.replicate loop.rules.length (.visit index) ++
    [.endTick index])

/-- A tick that nothing comes between is a tick of the engine. -/
theorem engine_run_tickEvents (machine : Machine) :
    (run machine (tickEvents machine)).server.engine = machine.server.engine.tick := by
  let engine := refresh machine.server.engine
  let begun := step (step machine .beginTick) .takeRules
  have found : begun.ticks[machine.ticks.length]? = some (.begin engine.loop.rules) :=
    List.getElem?_concat_length
  have within := (List.getElem?_eq_some_iff.mp found).1
  rcases run_visits found rfl rfl rfl with ⟨last, done, visited⟩
  have ended := step_endTick (Machine.getElem?_ticks_put
    (passed engine.loop.rules engine) last within) done
  rw [tickEvents, run_cons, run_cons, run_append, run_cons]
  refine (congrArg (fun machine => (run (step machine _) _).server.engine) visited).trans ?_
  exact congrArg (fun machine => machine.server.engine) ended

/-- A start that nothing comes between is a start of the engine. -/
theorem engine_run_start {machine : Machine} (idle : machine.loop.phase = .idle) :
    machine.server.engine.start =
      .ok (run machine (.start :: tickEvents (step machine .start))).server.engine := by
  rw [run_cons, engine_run_tickEvents]
  have started : (step machine .start).server.engine = launch machine.server.engine := rfl
  have isIdle : machine.server.engine.loop.phase = .idle := idle
  rw [started, launch, if_pos isIdle]
  unfold Engine.start
  rw [isIdle]

/-- An answer is one on a single route, wherever the request is led first. -/
theorem exists_run_of_answer {machine : Machine} {redirects : Nat} {request : Request}
    {setting : Setting} {outcome : Control.Outcome}
    (answered : Server.answerWithin setting machine.server redirects request = .ok outcome) :
    ∃ events, run machine events = { machine with server := outcome.2 } := by
  have unchanged (same : outcome.2 = machine.server) :
      ∃ events, run machine events = { machine with server := outcome.2 } :=
    ⟨[], by rw [same]; rfl⟩
  fun_induction Server.answerWithin setting machine.server redirects request with
  | case1 => exact unchanged (congrArg Prod.snd (Except.ok.inj answered)).symm
  | case2 => exact unchanged (congrArg Prod.snd (Except.ok.inj answered)).symm
  | case3 redirects request route _ answer followed =>
      refine ⟨[.request route request setting], ?_⟩
      rw [← Except.ok.inj answered]
      simp only [run, List.foldl, step, Machine.answer, followed]
  | case4 => exact unchanged (congrArg Prod.snd (Except.ok.inj answered)).symm
  | case5 => cases answered
  | case6 _ _ _ _ _ _ induction => exact induction answered
  | case7 => cases answered

end RobotRules.Interleaving
