import RobotRules.Proofs.Control.Handover
import RobotRules.Proofs.Loop.Upkeep
import RobotRules.Proofs.Memory.Legible

/-! What rules read can be written down, as long as nothing else was put into memory from
outside. Rules write no values that they could not read before, and the robot reports nothing
but texts; so parameters stay legible in the life of an engine. -/

namespace RobotRules

open Act (Keeps keeps_pure keeps_throw)

namespace World

/-- Some parameters are legible. -/
def Legible (names : List Text) (world : World) : Prop :=
  ∀ name ∈ names, world.memory.Legible name

variable {names : List Text} {before after : World}

theorem Legible.of_memory_eq (legible : Legible names before)
    (same : after.memory = before.memory) : Legible names after := by
  unfold Legible
  rwa [same]

theorem Legible.of_untouched (legible : Legible names before)
    (untouched : Untouched .conversation before after) : Legible names after :=
  legible.of_memory_eq untouched.stays.2.1

theorem keeps_legible_of_spares {α : Type} {action : Action α}
    (spares : Spares .conversation action) : Keeps (Legible names) action :=
  fun world legible => legible.of_untouched (spares world)

theorem keeps_legible_write (name : Value) {value : Value} (writable : value.isWritable = true) :
    Keeps (Legible names) (write name value) := by
  have needs : Keeps (Legible names) (needName name) :=
    keeps_legible_of_spares (spares_of_reads (reads_needName name))
  exact needs.bind fun _ world legible asked member =>
    (legible asked member).write writable world.clock name

theorem keeps_legible_addLine (role text : Text) : Keeps (Legible names) (addLine role text) :=
  fun world legible name member => (legible name member).addTurn world.clock role text

theorem keeps_legible_speak (text : Value) : Keeps (Legible names) (Speech.speak text) := by
  have told (action : RobotAction) : Keeps (Legible names) (tell action) :=
    fun world legible => legible.of_memory_eq rfl
  have paused (milliseconds : Nat) : Keeps (Legible names) (Speech.pause milliseconds) :=
    keeps_legible_of_spares (spares_pause milliseconds)
  unfold Speech.speak
  split
  case h_2 => exact keeps_pure _
  split
  · exact keeps_pure _
  · refine (keeps_legible_addLine _ _).bind fun _ => ?_
    refine (told _).bind fun _ => (paused _).bind fun _ => ?_
    exact (told _).bind fun _ => (paused _).bind fun _ => keeps_pure _

theorem keeps_legible_run (operation : Operation) (receiver : Text) (arguments : List Value) :
    Keeps (Legible names) (operation.run receiver arguments) := by
  cases operation with
  | speak =>
      rcases arguments with _ | ⟨text, _ | ⟨_, _⟩⟩
      · exact keeps_throw .argumentCount
      · exact keeps_legible_speak text
      · exact keeps_throw .argumentCount
  | _ =>
      exact keeps_legible_of_spares (spares_run (by simp [Operation.touches]) receiver arguments)

theorem keeps_legible_memory (operation : MemoryOperation) {arguments : List Value}
    (writable : ∀ value ∈ arguments, value.isWritable = true) :
    Keeps (Legible names) (operation.run arguments) := by
  unfold MemoryOperation.run
  split
  case h_2 name value =>
    exact (keeps_legible_write name (writable value (by simp))).bind fun _ => keeps_pure _
  case h_4 => exact fun world legible name member => (legible name member).clearHistory
  case h_5 => exact fun world _ name _ => Memory.legible_reset name world.memory
  case h_6 => exact keeps_throw _
  all_goals
    refine (keeps_legible_of_spares (spares_of_reads (reads_needName _))).bind fun _ => ?_
    exact fun world legible => legible

/-- No rule makes a parameter illegible. -/
theorem preserves_legible (names : List Text) : host.Preserves (Legible names) where
  record _ _ legible := legible.of_memory_eq rfl
  operation := by
    intro receiver method world found legible resolved arguments writable
    rcases resolve_cases resolved with ⟨_, operation, _, rfl⟩ | ⟨operation, _, rfl⟩
    · exact keeps_legible_memory operation writable
    · exact keeps_legible_run operation receiver arguments

theorem keeps_legible_wakeUp : Keeps (Legible names) Event.wakeUp := by
  refine (keeps_legible_of_spares spares_isListening).bind fun listening => ?_
  split
  · exact keeps_pure _
  · exact (keeps_legible_write _ rfl).bind fun _ => keeps_pure _

theorem keeps_legible_hear (text language : Text) :
    Keeps (Legible names) (Event.hear text language) := by
  have ended : Keeps (Legible names) (tell .finishConversation) :=
    fun world legible => legible.of_memory_eq rfl
  refine (keeps_legible_of_spares (spares_askRecognizer? (by simp))).bind fun _ => ?_
  split
  · refine (keeps_legible_addLine _ _).bind fun _ => ?_
    refine (keeps_legible_write _ rfl).bind fun _ => (keeps_legible_write _ rfl).bind fun _ => ?_
    exact (keeps_legible_write _ rfl).bind fun _ => ended
  · exact ended

end World

namespace Engine

open World (host keeps_legible_run keeps_legible_wakeUp keeps_legible_hear keeps_legible_write
  preserves_legible)

/-- The parameters are legible, and so is the state that the loop begins with. -/
structure IsLegible (names : List Text) (engine : Engine) : Prop where
  world : engine.world.Legible names
  seed : engine.loop.settings.initialState.toValue.isWritable = true

variable {names : List Text} {engine : Engine}

theorem legible_act {α : Type} {action : World.Action α}
    (keeps : Keeps (World.Legible names) action) (legible : engine.world.Legible names) :
    (engine.act action).2.world.Legible names := by
  rw [world_act]
  exact keeps _ legible

theorem settings_step (engine : Engine) (step : Step) :
    (engine.step step).loop.settings = engine.loop.settings := by
  have reloaded : engine.loop.reload.1.settings = engine.loop.settings := by
    rw [Loop.reload_fst]
  cases step with
  | tick => exact reloaded
  | start =>
      rw [Engine.step, Interleaving.launch]
      split
      · have begun : engine.seed.loop.begin.1.settings = engine.seed.loop.settings := rfl
        exact begun.trans (congrArg Loop.settings (loop_seed engine))
      · rfl
  | runOldest =>
      rw [Engine.step, runOldest]
      split <;> rfl
  | wakeUp | hear | evaluate | invoke | register | cleanup =>
      exact congrArg Loop.settings (loop_act _ engine)
  | clock | replace | stop => rfl

theorem legible_step (legible : engine.IsLegible names) (step : Step) :
    (engine.step step).IsLegible names := by
  refine ⟨?_, by rw [settings_step, legible.seed]⟩
  cases step with
  | wakeUp => exact legible_act keeps_legible_wakeUp legible.world
  | hear text reported detection => exact legible_act (keeps_legible_hear text _) legible.world
  | start =>
      exact kept_launch (fun _ _ legible => legible.of_memory_eq rfl)
        (keeps_legible_write _ legible.seed) legible.world
  | evaluate expr =>
      exact legible_act (Expr.keeps_evaluate (preserves_legible names) expr) legible.world
  | tick => exact Loop.keeps_tick (preserves_legible names) engine.loop legible.world
  | runOldest =>
      rw [Engine.step, runOldest]
      split
      · exact legible.world
      · exact Loop.keeps_runBatch (preserves_legible names) _ legible.world
  | invoke receiver operation arguments =>
      refine legible_act (fun world legible => ?_) legible.world
      cases found : (world.capability? receiver).bind (Capability.operation? operation) with
      | none =>
          rw [World.invoke_of_none found]
          exact legible
      | some offered =>
          rw [World.invoke_of_offers found]
          exact keeps_legible_run offered receiver arguments _ legible
  | _ => exact legible.world.of_untouched (untouched_step (by simp [Step.touches]) engine)

/-- Whatever happens to an engine, parameters that were legible stay so. -/
theorem legible_run (legible : engine.IsLegible names) (steps : List Step) :
    (engine.run steps).IsLegible names := by
  induction steps generalizing engine with
  | nil => exact legible
  | cons step rest induction => exact induction (legible_step legible step)

end Engine

end RobotRules
