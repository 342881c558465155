import RobotRules.Proofs.Capability.Management
import RobotRules.Proofs.Loop.Life

/-! What is kept up in the life of an engine. Where every operation keeps an invariant, so do
the steps of a life that evaluate or ask for operations. The other steps are few, and each
touches only some parts of the world. -/

namespace RobotRules

open Act (reached)

namespace World

/-- Nothing that is called breaks an invariant, nor does the log. -/
structure Upholds (kept : World → Prop) : Prop where
  operation : ∀ {receiver method : Text} {operation : Operation} {before : World},
    kept before → before.Offers receiver method operation →
      ∀ arguments, Act.Keeps kept (operation.run receiver arguments)
  memory : ∀ (operation : MemoryOperation) arguments, Act.Keeps kept (operation.run arguments)
  record : ∀ (entry : LogEntry) {world : World}, kept world → kept (World.record entry world)

theorem Upholds.preserves {kept : World → Prop} (upholds : Upholds kept) :
    host.Preserves kept where
  record := upholds.record
  operation := by
    intro receiver method world found holds resolved arguments _
    rcases resolve_cases resolved with ⟨_, operation, _, rfl⟩ | ⟨operation, offers, rfl⟩
    · exact upholds.memory operation arguments
    · exact upholds.operation holds offers arguments

/-- A shape that is upheld, and an invariant of the calls so far and the world that nothing
breaks as long as the calls are allowed ones and the world has the shape. -/
structure Maintains (allowed : Dispatch → Prop) (shape : World → Prop)
    (kept : List Dispatch → World → Prop) : Prop where
  upholds : Upholds shape
  operation : ∀ {receiver method : Text} {operation : Operation} {before : World},
    shape before → before.Offers receiver method operation →
      ∀ arguments, allowed ⟨receiver, method, arguments⟩ →
        ∀ calls world, shape world → kept calls world →
          kept (calls ++ [⟨receiver, method, arguments⟩])
            (reached (operation.run receiver arguments world))
  memory : ∀ {method : Text} {operation : MemoryOperation},
    Apps.find? method MemoryOperation.all = some operation →
      ∀ arguments, allowed ⟨memoryReceiver, method, arguments⟩ →
        ∀ calls world, shape world → kept calls world →
          kept (calls ++ [⟨memoryReceiver, method, arguments⟩])
            (reached (operation.run arguments world))
  record : ∀ (entry : LogEntry) {calls : List Dispatch} {world : World}, kept calls world →
    kept calls (World.record entry world)

theorem Maintains.preservesWhile {allowed : Dispatch → Prop} {shape : World → Prop}
    {kept : List Dispatch → World → Prop} (maintains : Maintains allowed shape kept) :
    host.PreservesWhile allowed shape kept where
  keepsShape := maintains.upholds.preserves
  record := maintains.record
  operation := by
    intro receiver method world found shaped resolved arguments isAllowed
    rcases resolve_cases resolved with ⟨rfl, operation, named, rfl⟩ | ⟨operation, offers, rfl⟩
    · exact maintains.memory named arguments isAllowed
    · exact maintains.operation shaped offers arguments isAllowed

/-- What is upheld is kept whatever is called. -/
theorem Upholds.maintains {kept : World → Prop} (upholds : Upholds kept) :
    Maintains (fun _ => True) kept fun _ _ => True where
  upholds := upholds
  operation _ _ _ _ _ _ _ _ := trivial
  memory _ _ _ _ _ _ _ := trivial
  record _ _ _ _ := trivial

theorem upholds_reserved (name : Text) (kind : Capability) : Upholds (Reserved name kind) where
  operation reserved offers arguments := reserved.keeps_run offers arguments
  memory operation arguments world reserved :=
    reserved.of_eq (spares_memory (by simp) operation arguments world).registry_eq
  record _ _ reserved := reserved.of_eq rfl

end World

namespace Engine

/-- The steps in which something is evaluated or asked for. -/
def Step.isWork : Step → Bool
  | .evaluate _ | .invoke .. | .tick | .runOldest => true
  | _ => false

/-- The parts of the world that a step may touch. -/
def Step.touches : Step → List Part
  | .wakeUp | .start => [.conversation]
  | .hear .. => [.conversation, .registry]
  | .register .. | .cleanup => [.registry, .movement]
  | .clock _ | .replace _ | .stop => []
  | _ => [.conversation, .registry, .movement, .places]

/-- What an idle loop begins with is a write and some log entries. -/
theorem kept_launch {kept : World → Prop} {engine : Engine}
    (record : ∀ (entry : LogEntry) {world : World}, kept world → kept (World.record entry world))
    (write : Act.Keeps kept
      (World.write Memory.interactionState engine.loop.settings.initialState.toValue))
    (holds : kept engine.world) : kept (Interleaving.launch engine).world := by
  have seeded : kept engine.seed.world := by
    unfold seed
    dsimp only
    split
    · rw [world_act]
      exact write _ holds
    · exact holds
  unfold Interleaving.launch
  split
  · exact Loop.kept_recordAll record _ seeded
  · exact holds

theorem untouched_launch {part : Part} (other : part ≠ .conversation) (engine : Engine) :
    World.Untouched part engine.world (Interleaving.launch engine).world :=
  kept_launch (fun entry world untouched => untouched.trans (World.spares_record entry world))
    (fun world untouched => untouched.trans (World.spares_write other _ _ world))
    (.refl part _)

theorem untouched_step {part : Part} {step : Step} (other : part ∉ step.touches)
    (engine : Engine) : World.Untouched part engine.world (engine.step step).world := by
  cases step with
  | wakeUp =>
      rw [Engine.step, world_act]
      exact World.spares_wakeUp (by simpa [Step.touches] using other) _
  | hear text reported detection =>
      have others : part ≠ .conversation ∧ part ≠ .registry := by
        simpa [Step.touches] using other
      rw [Engine.step, Engine.hear, world_act]
      exact World.spares_hear others.1 others.2 _ _ _
  | start => exact untouched_launch (by simpa [Step.touches] using other) engine
  | register name capability =>
      have others : part ≠ .registry ∧ part ≠ .movement := by
        simpa [Step.touches] using other
      rw [Engine.step, world_act]
      exact World.spares_register others.1 others.2 _ _ _
  | cleanup =>
      have others : part ≠ .registry ∧ part ≠ .movement := by
        simpa [Step.touches] using other
      rw [Engine.step, world_act]
      exact World.spares_cleanup others.1 others.2 _
  | clock now => exact World.untouched_of_eq rfl rfl rfl rfl rfl rfl rfl
  | replace | stop => exact .refl part _
  | evaluate | invoke | tick | runOldest => cases part <;> simp [Step.touches] at other

/-- What is registered has to be under the name just when it is of the kind. -/
def Step.Fits (name : Text) (kind : Capability) : Step → Prop
  | .register given capability =>
    World.receiverOf given capability = name ↔ capability.operations = kind.operations
  | _ => True

section Maintained

variable {allowed : Dispatch → Prop} {shape : World → Prop} {kept : List Dispatch → World → Prop}
  (maintains : World.Maintains allowed shape kept)

include maintains

/-- Work keeps the invariant if the calls that it makes are allowed. -/
theorem kept_of_isWork {engine : Engine} {step : Step} (work : step.isWork = true)
    (shaped : shape engine.world) (holds : kept [] engine.world)
    (all : ∀ call ∈ engine.calls step, allowed call) :
    shape (engine.step step).world ∧ kept (engine.calls step) (engine.step step).world := by
  have evaluated {state : World × List Dispatch} (traced : engine.traced? step = some state) :
      shape (engine.step step).world ∧ kept (engine.calls step) (engine.step step).world := by
    rw [calls_of_traced? traced] at all ⊢
    exact kept_of_traced? maintains.preservesWhile traced shaped holds all
  cases step with
  | evaluate expr => exact evaluated rfl
  | tick => exact evaluated rfl
  | runOldest =>
      cases queue : engine.loop.queue with
      | cons batch rest => exact evaluated (by rw [traced?, queue]; rfl)
      | nil =>
          have waits : engine.step .runOldest = engine := by rw [step, runOldest, queue]
          have silent : engine.calls .runOldest = [] := by simp [calls, traced?, queue]
          rw [waits, silent]
          exact ⟨shaped, holds⟩
  | invoke receiver operation arguments =>
      rw [calls] at all ⊢
      rw [Engine.step, world_act]
      cases found : (engine.world.capability? receiver).bind (Capability.operation? operation) with
      | none =>
          rw [World.invoke_of_none found]
          exact ⟨shaped, holds⟩
      | some offered =>
          rw [found] at all
          rw [World.invoke_of_offers found]
          exact ⟨maintains.upholds.operation shaped found arguments _ shaped,
            maintains.operation shaped found arguments
              (all _ (List.mem_singleton_self _)) [] _ shaped holds⟩
  | _ => cases work

end Maintained

/-- Work does not break what nothing that is called breaks. -/
theorem upheld_of_isWork {kept : World → Prop} (upholds : World.Upholds kept) {engine : Engine}
    {step : Step} (work : step.isWork = true) (holds : kept engine.world) :
    kept (engine.step step).world :=
  (kept_of_isWork upholds.maintains work holds trivial fun _ _ => trivial).1

/-- A name stays reserved over a step that fits. -/
theorem reserved_step {name : Text} {kind : Capability} {engine : Engine} {step : Step}
    (apart : Event.recognizer = name ↔
      (Capability.recognition false).operations = kind.operations)
    (fits : step.Fits name kind) (reserved : World.Reserved name kind engine.world) :
    World.Reserved name kind (engine.step step).world := by
  cases step with
  | hear text reported detection =>
      rw [Engine.step, Engine.hear, world_act]
      exact (World.refits_hear text _).keeps_reserved apart _ reserved
  | register given capability =>
      rw [Engine.step, world_act]
      exact World.Reserved.keeps_register fits _ reserved
  | cleanup =>
      rw [Engine.step, world_act]
      exact World.Reserved.keeps_cleanup _ reserved
  | evaluate | invoke | tick | runOldest =>
      exact upheld_of_isWork (World.upholds_reserved name kind) rfl reserved
  | _ => exact reserved.of_eq (untouched_step (by simp [Step.touches]) engine).registry_eq

end Engine

end RobotRules
