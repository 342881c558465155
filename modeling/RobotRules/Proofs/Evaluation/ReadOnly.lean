import RobotRules.Capability.Registry
import RobotRules.Proofs.Evaluation.Steps

/-! Expressions that only read. Their calls ask memory, speech recognition, movement and
places for what they know. Whether it gives a value or fails, evaluating such an expression
leaves the world as it is, and what comes of it does not depend on the log. -/

namespace RobotRules

namespace World

variable {α β : Type}

/-- The world with another log. -/
def withLog (log : Log) (world : World) : World := { world with log := log }

/-- An action that only reads, and not the log. -/
def Reads (action : Action α) : Prop :=
  ∀ world : World, ∃ outcome, ∀ log, action (world.withLog log) =
    Act.give outcome (world.withLog log)

/-- What comes of it leaves the world as it is. -/
theorem Reads.exists_outcome {action : Action α} (reads : Reads action) (world : World) :
    ∃ outcome, action world = Act.give outcome world := by
  rcases reads world with ⟨outcome, each⟩
  exact ⟨outcome, each world.log⟩

theorem reads_pure (value : α) : Reads (pure value) := fun _ => ⟨.ok value, fun _ => rfl⟩

theorem reads_throw (failure : Failure) : Reads (throw failure : Action α) :=
  fun _ => ⟨.error failure, fun _ => rfl⟩

theorem Reads.bind {first : Action α} {next : α → Action β} (reads : Reads first)
    (then_reads : ∀ value, Reads (next value)) : Reads (first >>= next) := by
  intro world
  rcases reads world with ⟨outcome, each⟩
  cases outcome with
  | error failure => exact ⟨.error failure, fun log => Act.bind_of_error next (each log)⟩
  | ok value =>
      rcases then_reads value world with ⟨outcome, eachNext⟩
      exact ⟨outcome, fun log => (Act.bind_of_ok next (each log)).trans (eachNext log)⟩

/-- An action that looks at the world, but not at its log. -/
theorem Reads.get {next : World → Action β}
    (same : ∀ log world, next (withLog log world) = next world)
    (reads : ∀ world, Reads (next world)) : Reads (get >>= next) := by
  intro world
  rcases reads world world with ⟨outcome, each⟩
  refine ⟨outcome, fun log => ?_⟩
  rw [Act.get_bind, same, each]

/-! The operations that read. -/

theorem reads_needName (name : Value) : Reads (needName name) := by
  unfold needName
  split
  · exact reads_pure ()
  · exact reads_throw _

theorem reads_motion (receiver : Text) : Reads (Movement.motion receiver) := by
  refine .get (fun _ _ => rfl) fun world => ?_
  split
  · exact reads_pure _
  · exact reads_pure _

theorem reads_isListening (receiver : Text) : Reads (Speech.isListening receiver) := by
  refine .get (fun _ _ => rfl) fun world => ?_
  split
  · exact reads_pure _
  · exact reads_pure _

theorem reads_saved : Reads Places.saved := .get (fun _ _ => rfl) fun _ => reads_pure _

theorem reads_isSaved (name : Text) : Reads (Places.isSaved name) := by
  refine reads_saved.bind fun places => ?_
  split
  · exact reads_pure _
  · exact reads_throw _

theorem reads_describeAll : Reads Places.describeAll := by
  refine reads_saved.bind fun places => ?_
  split
  · exact reads_pure _
  · split
    · exact reads_pure _
    · exact reads_throw _

theorem reads_isKnown (name : Value) : Reads (Places.isKnown name) := by
  unfold Places.isKnown
  split
  · exact reads_pure _
  · exact (reads_isSaved _).bind fun _ => reads_pure _

/-- What can be asked of capabilities without a change. -/
def isReading : Operation → Bool
  | .isListening | .isMoving | .isFollowing | .getMovementState | .getSavedLocations
  | .listLocations | .countLocations | .locationExists => true
  | _ => false

/-- An operation that reads does so with any arguments; too few or too many make it fail. -/
theorem reads_run {operation : Operation} (reading : isReading operation = true)
    (receiver : Text) (arguments : List Value) : Reads (operation.run receiver arguments) := by
  unfold Operation.run
  split
  all_goals first
    | exact reads_throw _
    | exact reads_isListening receiver
    | exact reads_saved.bind fun _ => reads_pure _
    | exact (reads_motion receiver).bind fun _ => reads_pure _
    | exact reads_describeAll
    | exact reads_isKnown _
    | cases reading

/-- What can be asked of memory without a change. -/
def isMemoryReading : MemoryOperation → Bool
  | .read | .previous => true
  | _ => false

theorem reads_memory {operation : MemoryOperation} (reading : isMemoryReading operation = true)
    (arguments : List Value) :
    Reads (operation.run arguments) := by
  have readsOf : ∀ (name : Value) (value : World → Value),
      (∀ log world, value (withLog log world) = value world) →
      Reads (do needName name; return value (← get)) := fun name value same =>
    (reads_needName name).bind fun _ =>
      .get (fun log world => by rw [same]) fun _ => reads_pure _
  unfold MemoryOperation.run
  split
  · exact readsOf _ (fun world => world.memory.read _) fun _ _ => rfl
  · cases reading
  · exact readsOf _ (fun world => world.memory.previous _) fun _ _ => rfl
  · cases reading
  · cases reading
  · exact reads_throw _

end World

/-! Expressions. -/

namespace Expr

mutual
/-- The calls in an expression, wherever they stand. -/
def calls : Expr → List (Text × Text)
  | .literal _ | .foreign _ => []
  | .call receiver method arguments => (receiver, method) :: callsIn arguments
  | .equals left right | .and left right | .or left right => calls left ++ calls right
  | .matching _ text | .capture _ text _ => calls text

def callsIn : List Expr → List (Text × Text)
  | [] => []
  | expr :: rest => calls expr ++ callsIn rest
end

/-- The calls of capabilities that only read. -/
def capabilityReadings : List (Text × Text) :=
  [("ASR", "isListening"), ("Move", "isMoving"), ("Move", "isFollowing"),
   ("Move", "getMovementState"), ("Move", "getSavedLocations"), ("Locations", "listLocations"),
   ("Locations", "getLocationCount"), ("Locations", "locationExists")]

/-- The calls that only read. -/
def readings : List (Text × Text) :=
  ("Memory", "getStateParam") :: ("Memory", "getPreviousStateParam") :: capabilityReadings

/-- All calls in an expression only read. -/
def ReadOnly (expr : Expr) : Prop := ∀ call ∈ calls expr, call ∈ readings

instance (expr : Expr) : Decidable expr.ReadOnly :=
  inferInstanceAs (Decidable (∀ call ∈ calls expr, call ∈ readings))

example : ReadOnly (.equals (.call "Move" "isMoving" []) (.literal "x")) := by decide
example : ¬ReadOnly (.call "Memory" "getStateParam" [.call "Move" "goHome" []]) := by decide

/-- Whatever capability is asked, what bears the name of a reading operation is one. -/
theorem isReading_of_operation? {receiver method : Text}
    (named : (receiver, method) ∈ capabilityReadings) {capability : Capability}
    {operation : Operation} (found : capability.operation? method = some operation) :
    World.isReading operation = true := by
  have each : (capabilityReadings.all fun call =>
      (capability.operation? call.2).all World.isReading) = true := by
    cases capability <;> rfl
  have here := List.all_eq_true.mp each _ named
  rwa [found] at here

open World (Reads reads_pure reads_throw)

/-- The operation of a call that only reads does so. -/
theorem reads_operation {receiver method : Text} (named : (receiver, method) ∈ readings)
    {world : World} {operation : List Value → World.Action Value}
    (resolved : world.resolve receiver method = .ok operation) (arguments : List Value) :
    Reads (operation arguments) := by
  unfold World.resolve at resolved
  by_cases isMemory : receiver = World.memoryReceiver
  · have method : method = "getStateParam".toList ∨ method = "getPreviousStateParam".toList := by
      subst isMemory
      simpa [readings, capabilityReadings, World.memoryReceiver] using named
    rw [if_pos isMemory] at resolved
    rcases method with rfl | rfl
    · rw [← Except.ok.inj resolved]
      exact World.reads_memory rfl arguments
    · rw [← Except.ok.inj resolved]
      exact World.reads_memory rfl arguments
  · rw [if_neg isMemory] at resolved
    have capabilityNamed : (receiver, method) ∈ capabilityReadings := by
      simp only [readings, List.mem_cons, Prod.mk.injEq] at named
      rcases named with ⟨same, _⟩ | ⟨same, _⟩ | named
      · exact absurd same isMemory
      · exact absurd same isMemory
      · exact named
    split at resolved
    · cases resolved
    · rename_i capability _
      split at resolved
      · rename_i found
        rw [← Except.ok.inj resolved]
        exact World.reads_run (isReading_of_operation? capabilityNamed found) receiver arguments
      · cases resolved

theorem reads_described (result : Value) : Reads (described result) := by
  unfold described
  split
  · exact reads_pure result
  · exact reads_throw _

mutual
/-- An expression whose calls only read only reads. -/
theorem reads_evaluate : ∀ expr : Expr, expr.ReadOnly → Reads (evaluate World.host expr)
  | .literal value, _ => reads_pure _
  | .equals left right, readOnly | .and left right, readOnly | .or left right, readOnly =>
      (reads_evaluate left fun call member => readOnly call (by simp [calls, member])).bind
        fun _ => (reads_evaluate right fun call member =>
          readOnly call (by simp [calls, member])).bind fun _ => reads_pure _
  | .matching _ text, readOnly | .capture _ text _, readOnly =>
      (reads_evaluate text readOnly).bind fun _ => reads_pure _
  | .call receiver method arguments, readOnly => by
      have named : (receiver, method) ∈ readings := readOnly _ (by simp [calls])
      have inArguments : ∀ call ∈ callsIn arguments, call ∈ readings := fun call member =>
        readOnly call (by simp [calls, member])
      unfold evaluate
      -- names are resolved in the world as it is before the arguments
      refine .get (fun _ _ => rfl) fun world => ?_
      cases resolved : World.host.resolve receiver method world with
      | error failure => exact reads_throw failure
      | ok operation =>
          exact (reads_evaluateAll arguments inArguments).bind fun values =>
            (reads_operation named resolved values).bind reads_described
  | .foreign value, _ => reads_throw _

theorem reads_evaluateAll : ∀ exprs : List Expr, (∀ call ∈ callsIn exprs, call ∈ readings) →
    Reads (evaluateAll World.host exprs)
  | [], _ => reads_pure _
  | expr :: rest, readOnly =>
      (reads_evaluate expr fun call member => readOnly call (by simp [callsIn, member])).bind
        fun _ => (reads_evaluateAll rest fun call member =>
          readOnly call (by simp [callsIn, member])).bind fun _ => reads_pure _
end

end Expr

end RobotRules
