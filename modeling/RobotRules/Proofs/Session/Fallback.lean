import RobotRules.Proofs.Capability.Management
import RobotRules.Proofs.Control.Handover
import RobotRules.Proofs.Loop.Life
import RobotRules.Proofs.Session.Rules

/-! The rules that stand in for a file that cannot be read. They wait for the states "active"
and "idle"; but the loop begins in the state "Active", and what the robot reports leads to that
state or to "asrReceived". So no matter what the robot reports, no tick does anything. -/

namespace RobotRules

open Act (Keeps)
open World (host)

namespace Fallback

open Bundled (stateIs saying entering canonical_stateIs canonical_saying canonical_entering)

/-! The rules as trees. -/

def sayTest : Rule := ⟨stateIs "active", [saying (.literal "this is a test"), entering "idle"]⟩

def sayIdle : Rule :=
  ⟨stateIs "idle", [saying (.literal "Interaction is idle"), entering "active"]⟩

def rules : List Rule := [sayTest, sayIdle]

theorem texts_fallbackText :
    (Block.ofText (Block.stripOuter Rule.fallbackText)).map Block.texts =
      rules.map Rule.renderings := by
  decide +kernel

/-- A rule that says something in one state and enters another. -/
theorem readsFrom_saying {current next line : Text} (unquoted : '"' ∉ current)
    (unquotedLine : '"' ∉ line) (unquotedNext : '"' ∉ next) :
    Rule.ReadsFrom ⟨stateIs current, [saying (.literal line), entering next]⟩
      (Rule.renderings ⟨stateIs current, [saying (.literal line), entering next]⟩) := by
  refine Rule.readsFrom_renderings (canonical_stateIs unquoted) ?_ (List.cons_ne_nil _ _)
  simp only [List.forall_mem_cons, List.not_mem_nil, false_implies, implies_true, and_true]
  exact ⟨canonical_saying (.literal unquotedLine), canonical_entering unquotedNext⟩

/-- The rules are read from their text, without a warning. -/
theorem parseAll_fallbackText : Rule.parseAll Rule.fallbackText = (rules, []) := by
  refine Rule.ofBlocks_of_readsFrom ?_
  rw [texts_fallbackText, List.forall₂_map_right_iff, List.forall₂_same]
  simp only [rules, List.forall_mem_cons, List.not_mem_nil, false_implies, implies_true, and_true]
  exact ⟨readsFrom_saying (by decide) (by decide) (by decide),
    readsFrom_saying (by decide) (by decide) (by decide)⟩

/-! When the rules fire. -/

theorem equal_text_iff {value : Value} {text : Text} :
    value.equal (.text text) = true ↔ value = .text text := by
  cases value <;> simp [Value.equal, Value.kind, Value.same, Value.sameScalar]

theorem holds_stateIs {world : World} (legible : world.memory.Legible "interactionState")
    (asked : Text) : (stateIs asked).holds host world =
      .ok ((world.memory.read Memory.interactionState).equal (.text asked)) world := by
  have judged : (stateIs asked).evaluate host world = .ok (.boolean
      ((world.memory.read Memory.interactionState).equal (.text asked))) world := by
    rw [stateIs, Expr.evaluate, Act.bind_of_ok _ (Session.evaluate_reading legible)]
    rfl
  exact Expr.holds_of_evaluate judged

/-- A state that cannot be written is none of those that rules wait for, and cannot even be
compared with them. -/
theorem holds_stateIs_of_illegible {world : World}
    (illegible : ¬world.memory.Legible "interactionState") (asked : Text) :
    (stateIs asked).holds host world = .error .integerTooLong world := by
  have failed : (Bundled.reading "interactionState").evaluate host world =
      .error .integerTooLong world := Expr.evaluate_read_of_illegible illegible
  simp only [Expr.holds, stateIs, Expr.evaluate, bind, EStateM.bind, failed]

/-- The rules fire in two states only, and there one of them fires whatever comes of it. -/
theorem fired_ne_nil_iff (loop : Loop) (world : World) : loop.fired host rules world ≠ [] ↔
    world.memory.read Memory.interactionState = .text "active" ∨
      world.memory.read Memory.interactionState = .text "idle" := by
  by_cases legible : world.memory.Legible "interactionState"
  case neg =>
    have first : sayTest.condition.holds host world = _ :=
      holds_stateIs_of_illegible legible "active"
    have isText : ∀ text, world.memory.read Memory.interactionState ≠ .text text :=
      fun _ found => legible (Memory.legible_of_text found)
    simp [rules, Loop.fired, first, isText]
  rw [← equal_text_iff, ← equal_text_iff]
  have first : sayTest.condition.holds host world = _ := holds_stateIs legible "active"
  have second : sayIdle.condition.holds host world = _ := holds_stateIs legible "idle"
  cases active : (world.memory.read Memory.interactionState).equal (.text "active") with
  | true =>
      rw [active] at first
      simp [rules, Loop.fired, first]
  | false =>
      rw [active] at first
      have passed : Loop.visit host loop sayTest world = .ok none world :=
        Loop.visit_of_not_holds first
      cases idle : (world.memory.read Memory.interactionState).equal (.text "idle") with
      | true =>
          rw [idle] at second
          simp [rules, Loop.fired, first, passed, second]
      | false =>
          rw [idle] at second
          have passed' : Loop.visit host loop sayIdle world = .ok none world :=
            Loop.visit_of_not_holds second
          simp [rules, Loop.fired, first, passed, second, passed']

/-- The state of the interaction is one of those that reports lead to. -/
def Reported (world : World) : Prop :=
  world.memory.read Memory.interactionState = .text "Active" ∨
    world.memory.read Memory.interactionState = .text "asrReceived"

theorem Reported.legible {world : World} (reported : Reported world) :
    world.memory.Legible "interactionState" :=
  reported.elim Memory.legible_of_text Memory.legible_of_text

/-- The rules pass over such a state. -/
theorem Reported.passes {world : World} (reported : Reported world) (loop : Loop) :
    Loop.Passes host loop rules world [] world := by
  have other : ∀ asked ∈ ["active".toList, "idle".toList],
      (world.memory.read Memory.interactionState).equal (.text asked) = false := by
    rcases reported with active | received
    · rw [active]
      decide
    · rw [received]
      decide
  refine .skipAll ?_
  simp only [rules, List.forall_mem_cons, List.not_mem_nil, false_implies, implies_true, and_true]
  constructor
  · rw [sayTest, holds_stateIs reported.legible, other _ (by simp)]
  · rw [sayIdle, holds_stateIs reported.legible, other _ (by simp)]

/-! What reports lead to. -/

section Reports

variable {α : Type} {name : Text}

theorem Reported.of_read {before after : World} (reported : Reported before)
    (same : after.memory.read Memory.interactionState =
      before.memory.read Memory.interactionState) : Reported after := by
  unfold Reported
  rwa [same]

theorem keeps_of_spares {action : World.Action α} (spares : World.Spares .conversation action) :
    Keeps Reported action := fun world reported =>
  reported.of_read (by rw [(spares world).stays.2.1])

theorem keeps_write_of_ne (different : name ≠ "interactionState".toList) (value : Value) :
    Keeps Reported (World.write (.text name) value) := fun world reported =>
  reported.of_read (by
    show (world.memory.write world.clock (.text name) value).read Memory.interactionState = _
    rw [Memory.interactionState, Memory.read_write_text, if_neg different])

theorem keeps_addLine (role text : Text) : Keeps Reported (World.addLine role text) :=
  fun _ reported => reported.of_read (Memory.read_addTurn_of_ne (by simp) _ _ _ _)

/-- Reports write no other states than these. -/
theorem reported_write {state : Text} (among : state = "Active".toList ∨
    state = "asrReceived".toList) (now : Int) (world : World) :
    Reported { world with
      memory := world.memory.write now Memory.interactionState (.text state) } := by
  unfold Reported
  simp only [Memory.interactionState, Memory.read_write_text, if_true, Value.text.injEq]
  exact among

theorem keeps_write_state {state : Text} (among : state = "Active".toList ∨
    state = "asrReceived".toList) :
    Keeps Reported (World.write Memory.interactionState (.text state)) := fun world _ =>
  reported_write among world.clock world

theorem keeps_wakeUp : Keeps Reported Event.wakeUp := by
  refine (keeps_of_spares World.spares_isListening).bind fun listening => ?_
  split
  · exact Act.keeps_pure _
  · exact (keeps_write_state (.inl rfl)).bind fun _ => Act.keeps_pure _

theorem keeps_hear (text language : Text) : Keeps Reported (Event.hear text language) := by
  have ended : Keeps Reported (World.tell .finishConversation) :=
    keeps_of_spares (World.spares_tell (by simp [Part.ofAction?]))
  refine (keeps_of_spares (World.spares_askRecognizer? (by simp))).bind fun _ => ?_
  split
  · exact (keeps_addLine _ _).bind fun _ => (keeps_write_of_ne (by simp) _).bind fun _ =>
      (keeps_write_of_ne (by simp) _).bind fun _ => (keeps_write_state (.inr rfl)).bind fun _ =>
        ended
  · exact ended

end Reports

/-! Engines that hold these rules. -/

/-- The engine before its loop is started. Its loop has the default settings. -/
def engine (world : World) (foreground : Foreground) : Engine :=
  ⟨world, Loop.idle {} foreground Rule.fallbackText⟩

/-- The loop goes by the rules, holds no others, and the state of the interaction is none for
which they wait. -/
structure Idles (engine : Engine) : Prop where
  rules : engine.loop.rules = Fallback.rules
  parsed : engine.loop.isPending = false
  reported : Reported engine.world

theorem begun_eq (world : World) (foreground : Foreground) : (engine world foreground).begun =
    ⟨{ world with
        memory := world.memory.write world.clock Memory.interactionState (.text "Active") },
      { Loop.idle {} foreground Rule.fallbackText with
        rules := rules
        isPending := false
        phase := .running }⟩ := by
  have begins : (engine world foreground).seed.loop.begin =
      ({ Loop.idle {} foreground Rule.fallbackText with
        rules := rules
        isPending := false
        phase := .running }, []) := by
    have seeded : (engine world foreground).seed.loop =
      Loop.idle {} foreground Rule.fallbackText := rfl
    have parsed : Rule.parseAll (Loop.idle {} foreground Rule.fallbackText).text = (rules, []) :=
      parseAll_fallbackText
    rw [seeded, Loop.begin, Loop.parse, parsed]
  rw [Engine.begun, begins]
  rfl

theorem idles_begun (world : World) (foreground : Foreground) :
    Idles (engine world foreground).begun := by
  rw [begun_eq]
  exact ⟨rfl, rfl, reported_write (.inl rfl) world.clock world⟩

namespace Idles

variable {engine : Engine} (idles : Idles engine)

include idles

theorem firing_eq_nil : engine.firing = [] := by
  rw [Engine.firing, idles.rules]
  exact (idles.reported.passes engine.loop).fired

/-- A tick is counted, and that is all. -/
theorem tick_eq : engine.tick =
    { engine with loop := { engine.loop with ticks := engine.loop.ticks + 1 } } := by
  have passes := idles.reported.passes engine.loop
  rw [← idles.rules] at passes
  rw [Engine.tick, Loop.tick_of_passes idles.parsed passes]

theorem act {α : Type} {action : World.Action α} (keeps : Keeps Reported action) :
    Idles (engine.act action).2 where
  rules := by rw [Engine.loop_act, idles.rules]
  parsed := by rw [Engine.loop_act, idles.parsed]
  reported := by
    rw [Engine.world_act]
    exact keeps _ idles.reported

theorem undergo (happening : Happening) : Idles (engine.undergo happening) := by
  cases happening with
  | wakeUp => exact idles.act keeps_wakeUp
  | hear text reported detection => exact idles.act (keeps_hear text _)
  | clock now => exact ⟨idles.rules, idles.parsed, idles.reported⟩
  | tick =>
      rw [Engine.undergo, idles.tick_eq]
      exact ⟨idles.rules, idles.parsed, idles.reported⟩

theorem undergoAll (happenings : List Happening) :
    Idles (happenings.foldl Engine.undergo engine) := by
  induction happenings generalizing engine with
  | nil => exact idles
  | cons happening rest induction => exact induction (idles.undergo happening)

end Idles

/-- The engine after its loop was started, which makes the first tick, and some things happened. -/
def after (world : World) (foreground : Foreground) (happenings : List Happening) : Engine :=
  happenings.foldl Engine.undergo (engine world foreground).begun.tick

theorem start_eq (world : World) (foreground : Foreground) :
    (engine world foreground).start = .ok (after world foreground []) := by
  rw [after, List.foldl_nil]
  exact Engine.start_of_idle _ rfl

theorem idles_after (world : World) (foreground : Foreground) (happenings : List Happening) :
    Idles (after world foreground happenings) :=
  ((idles_begun world foreground).undergo .tick).undergoAll happenings

theorem world_after_nil (world : World) (foreground : Foreground) :
    (after world foreground []).world = { world with
      memory := world.memory.write world.clock Memory.interactionState (.text "Active") } := by
  rw [after, List.foldl_nil, (idles_begun world foreground).tick_eq, begun_eq]

/-- Whatever happens after the loop was started, the rules are in force but wait for states that
are never reached: they would fire in the state "active" or "idle", and the state is "Active" or
"asrReceived". So no rule fires in the next tick, and the tick leaves the world as it is, also
right after the robot paid heed to its name. -/
theorem silent_whatever_happens (world : World) (foreground : Foreground)
    (happenings : List Happening) :
    (engine world foreground).start = .ok (after world foreground []) ∧
    (after world foreground happenings).loop.rules = rules ∧
    (∀ other : World,
      ({ after world foreground happenings with world := other } : Engine).firing ≠ [] ↔
        other.memory.read Memory.interactionState = .text "active" ∨
          other.memory.read Memory.interactionState = .text "idle") ∧
    Reported (after world foreground happenings).world ∧
    (after world foreground happenings).firing = [] ∧
    (after world foreground happenings).tick.world =
      (after world foreground happenings).world := by
  have idles := idles_after world foreground happenings
  refine ⟨start_eq world foreground, idles.rules, fun other => ?_, idles.reported,
    idles.firing_eq_nil, by rw [idles.tick_eq]⟩
  have firing : ({ after world foreground happenings with world := other } : Engine).firing =
      (after world foreground happenings).loop.fired host rules other := by
    rw [← idles.rules]
    rfl
  rw [firing]
  exact fired_ne_nil_iff _ other

section Unheard

/-- When the robot pays heed to its name, a rule fires in the next tick, and the robot speaks. -/
def RespondsToName (engine : Engine) : Prop :=
  ∀ woken, engine.act Event.wakeUp = (.ok true, woken) → woken.firing ≠ [] ∧
    ∃ told line, woken.tick.world.robot.actions = woken.world.robot.actions ++ told ∧
      RobotAction.speak line ∈ told

/-- A world in which nothing has happened yet, with all capabilities. -/
def untouched : World := World.fresh {} (Robot.idle [.text "home base"] [] false) []

/-- The robot pays heed to its name, and says nothing. -/
theorem not_respondsToName_untouched :
    (engine untouched .inline).start = .ok (after untouched .inline []) ∧
      ((after untouched .inline []).act Event.wakeUp).1 = .ok true ∧
      ¬RespondsToName (after untouched .inline []) := by
  have idles := idles_after untouched .inline []
  have heeded : ((after untouched .inline []).act Event.wakeUp).1 = .ok true := by
    rw [Engine.act, world_after_nil]
    rfl
  refine ⟨start_eq untouched .inline, heeded, fun responds => ?_⟩
  have waits : Idles ((after untouched .inline []).act Event.wakeUp).2 := idles.act keeps_wakeUp
  rcases answered : (after untouched .inline []).act Event.wakeUp with ⟨answer, woken⟩
  rw [answered] at heeded waits
  obtain rfl : answer = .ok true := heeded
  exact (responds woken answered).1 waits.firing_eq_nil

end Unheard

end Fallback

end RobotRules
