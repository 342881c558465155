import RobotRules.Proofs.Capability.Equipment
import RobotRules.Proofs.Evaluation.Footprint

/-! Expressions that call nothing but memory, under names that they compute. What makes such an
expression fail is a list or a dictionary that is used as a name, or a value that is read and
cannot be written. Where memory holds none of these, it gives a value that is none, and leaves
memory so; but the conversation is a list. -/

namespace RobotRules

/-! The operations of memory. -/

namespace MemoryOperation

/-- How many arguments an operation takes. -/
def arity : MemoryOperation → Nat
  | .write => 2
  | .read | .previous => 1
  | .clearHistory | .reset => 0

theorem resolve_name (operation : MemoryOperation) (world : World) :
    World.host.resolve "Memory" operation.name world = .ok operation.run := by
  cases operation <;> rfl

end MemoryOperation

namespace Dispatch

/-- A call is not handed a list or a dictionary for a name. The name is the first argument, if
there are any. -/
def HasName (call : Dispatch) : Prop := ∀ name ∈ call.arguments.head?, name.isName = true

variable {receiver method : Text} {name : Value} {others : List Value}

theorem hasName_nil : HasName ⟨receiver, method, []⟩ := nofun

theorem hasName_cons_iff :
    HasName ⟨receiver, method, name :: others⟩ ↔ name.isName = true := by
  simp [HasName]

end Dispatch

namespace World

variable {α : Type} {name : Value} {world : World}

theorem needName_of_isName (named : name.isName = true) : needName name = pure () := if_pos named

/-- Nothing is done without a name. -/
theorem needName_bind_of_not_isName (unnamed : ¬name.isName = true) (action : Unit → Action α) :
    (needName name >>= action) world = .error .notAName world := by
  rw [needName, if_neg unnamed]
  rfl

end World

open Dispatch (HasName hasName_nil hasName_cons_iff)

/-- With as many arguments as it takes, an operation of memory only fails for want of a name. -/
theorem MemoryOperation.run_cases {operation : MemoryOperation} {arguments : List Value}
    (arity : arguments.length = operation.arity) (receiver method : Text) (world : World) :
    (HasName ⟨receiver, method, arguments⟩ ∧
      ∃ value after, operation.run arguments world = .ok value after) ∨
    (¬HasName ⟨receiver, method, arguments⟩ ∧
      operation.run arguments world = .error .notAName world) := by
  cases operation with
  | read | previous =>
      obtain ⟨name, rfl⟩ := List.length_eq_one_iff.mp arity
      rw [hasName_cons_iff, run]
      by_cases named : name.isName = true
      · rw [World.needName_of_isName named]
        exact .inl ⟨named, _, _, rfl⟩
      · exact .inr ⟨named, World.needName_bind_of_not_isName named _⟩
  | write =>
      obtain ⟨name, value, rfl⟩ := List.length_eq_two.mp arity
      rw [hasName_cons_iff, run, World.write]
      by_cases named : name.isName = true
      · rw [World.needName_of_isName named]
        exact .inl ⟨named, _, _, rfl⟩
      · refine .inr ⟨named, Act.bind_of_error _ ?_⟩
        exact World.needName_bind_of_not_isName named _
  | clearHistory | reset =>
      obtain rfl := List.length_eq_zero_iff.mp arity
      exact .inl ⟨hasName_nil, _, _, rfl⟩

namespace Expr

/-- All calls are of memory, with as many arguments as they take. -/
inductive OnMemory : Expr → Prop
  | literal (value : Text) : OnMemory (.literal value)
  | equals {left right : Expr} : OnMemory left → OnMemory right → OnMemory (.equals left right)
  | and {left right : Expr} : OnMemory left → OnMemory right → OnMemory (.and left right)
  | or {left right : Expr} : OnMemory left → OnMemory right → OnMemory (.or left right)
  | matching (pattern : Text) {text : Expr} : OnMemory text → OnMemory (.matching pattern text)
  | capture (pattern : Text) {text : Expr} (index : Int) : OnMemory text →
      OnMemory (.capture pattern text index)
  | call (operation : MemoryOperation) {arguments : List Expr} :
      arguments.length = operation.arity → (∀ argument ∈ arguments, OnMemory argument) →
      OnMemory (.call "Memory" operation.name arguments)

end Expr

namespace Host

variable {σ α β : Type}

/-- An action only fails over a call that is handed no proper name, or whose result cannot be
written, and it fails over the first such call. -/
def NeedsNames (action : Act (σ × List Dispatch) α) : Prop :=
  ∀ state calls, match action (state, calls) with
    | .ok _ (_, all) => ∃ made, all = calls ++ made ∧ ∀ call ∈ made, call.HasName
    | .error failure (_, all) => ∃ made call, all = calls ++ (made ++ [call]) ∧
        (∀ earlier ∈ made, earlier.HasName) ∧
        (failure = .notAName ∧ ¬call.HasName ∨ failure = .integerTooLong ∧ call.HasName)

theorem needsNames_pure (value : α) : NeedsNames (pure value : Act (σ × List Dispatch) α) :=
  fun _ calls => ⟨[], (List.append_nil calls).symm, by simp⟩

theorem NeedsNames.bind {first : Act (σ × List Dispatch) α}
    {next : α → Act (σ × List Dispatch) β} (one : NeedsNames first)
    (two : ∀ {before after value}, first before = .ok value after → NeedsNames (next value)) :
    NeedsNames (first >>= next) := by
  intro state calls
  have start := one state calls
  cases done : first (state, calls) with
  | error failure reached =>
      rw [done] at start
      rw [Act.bind_of_error next done]
      exact start
  | ok value middle =>
      rw [done] at start
      rw [Act.bind_of_ok next done]
      rcases middle with ⟨between, all⟩
      rcases start with ⟨made, rfl, named⟩
      have rest := two done between (calls ++ made)
      revert rest
      cases next value (between, calls ++ made) with
      | error failure reached =>
          rintro ⟨more, call, isAll, named', last⟩
          refine ⟨made ++ more, call, ?_, List.forall_mem_append.mpr ⟨named, named'⟩, last⟩
          rw [isAll, List.append_assoc, List.append_assoc]
      | ok result reached =>
          rintro ⟨more, isAll, named'⟩
          exact ⟨made ++ more, isAll.trans (List.append_assoc ..),
            List.forall_mem_append.mpr ⟨named, named'⟩⟩

/-- What is done with a value makes no call. -/
theorem NeedsNames.map {first : Act (σ × List Dispatch) α} (one : NeedsNames first) (f : α → β) :
    NeedsNames (first >>= fun value => pure (f value)) :=
  one.bind fun _ => needsNames_pure _

theorem needsNames_noting {operation : MemoryOperation} {arguments : List Value}
    (arity : arguments.length = operation.arity) (receiver method : Text) :
    NeedsNames (noting receiver method operation.run arguments >>= Expr.described) := by
  intro world calls
  rcases MemoryOperation.run_cases arity receiver method world with
    ⟨named, value, after, done⟩ | ⟨unnamed, failed⟩
  · have noted : noting receiver method operation.run arguments (world, calls) =
        .ok value (after, calls ++ [⟨receiver, method, arguments⟩]) := by
      rw [noting, done]
    rw [Act.bind_of_ok _ noted]
    cases writable : value.isWritable with
    | true =>
        rw [Expr.described_of_isWritable writable]
        exact ⟨[_], rfl, List.forall_mem_singleton.mpr named⟩
    | false =>
        rw [Expr.described_of_not_isWritable writable]
        exact ⟨[], _, rfl, by simp, .inr ⟨rfl, named⟩⟩
  · have noted : noting receiver method operation.run arguments (world, calls) =
        .error .notAName (world, calls ++ [⟨receiver, method, arguments⟩]) := by
      rw [noting, failed]
    rw [Act.bind_of_error _ noted]
    exact ⟨[], _, rfl, by simp, .inl ⟨rfl, unnamed⟩⟩

end Host

namespace Expr

open Host (NeedsNames needsNames_pure needsNames_noting)

theorem needsNames_evaluateAll {exprs : List Expr}
    (each : ∀ expr ∈ exprs, NeedsNames (evaluate World.host.traced expr)) :
    NeedsNames (evaluateAll World.host.traced exprs) := by
  induction exprs with
  | nil => exact needsNames_pure _
  | cons expr rest induction =>
      rw [evaluateAll_cons]
      exact (each expr (by simp)).bind fun _ =>
        (induction fun other member => each other (List.mem_cons_of_mem _ member)).map _

theorem OnMemory.needsNames {expr : Expr} (onMemory : expr.OnMemory) :
    NeedsNames (evaluate World.host.traced expr) := by
  induction onMemory with
  | literal value => exact needsNames_pure _
  | equals _ _ left right | and _ _ left right | or _ _ left right =>
      exact left.bind fun _ => right.map _
  | matching _ _ induction | capture _ _ _ induction => exact induction.map _
  | @call operation arguments arity _ each =>
      intro world calls
      have resolved := operation.resolve_name world
      rw [evaluate_call_of_ok (Host.resolve_traced_eq_ok_iff.mpr ⟨operation.run, resolved, rfl⟩)]
      refine (needsNames_evaluateAll each).bind (fun done => ?_) world calls
      exact needsNames_noting ((length_of_evaluateAll done).trans arity) _ _

end Expr

/-! Memory that holds nothing but proper values. -/

/-- Texts, truths and the absent value are proper. -/
structure Value.Embraced (proper : Value → Prop) : Prop where
  absent : proper .absent
  boolean (truth : Bool) : proper (.boolean truth)
  text (characters : Text) : proper (.text characters)

namespace Memory

/-- All values that memory holds are proper. -/
structure Holds (proper : Value → Prop) (memory : Memory) : Prop where
  current : ∀ entry ∈ memory.current, proper entry.2
  history : ∀ entry ∈ memory.history, ∀ written ∈ entry.2, proper written.value

namespace Holds

variable {proper : Value → Prop} {memory : Memory} (holds : memory.Holds proper)

include holds

theorem read (absent : proper .absent) (name : Value) : proper (memory.read name) := by
  rw [Memory.read]
  cases found : memory.current.find? name with
  | none => exact absent
  | some value =>
      rcases Named.exists_mem_of_find? found with ⟨other, member⟩
      exact holds.current _ member

theorem of_mem_entries {name : Value} {written : Entry}
    (member : written ∈ memory.entries name) : proper written.value := by
  rw [entries] at member
  cases found : memory.history.find? name with
  | none =>
      rw [found] at member
      cases member
  | some entries =>
      rw [found] at member
      rcases Named.exists_mem_of_find? found with ⟨other, filed⟩
      exact holds.history _ filed written member

theorem previous (absent : proper .absent) (name : Value) : proper (memory.previous name) := by
  rw [Memory.previous]
  split
  · rename_i last written rest behind
    have member : written ∈ (memory.entries name).reverse := by simp [behind]
    exact holds.of_mem_entries (List.mem_reverse.mp member)
  · exact absent

theorem write {value : Value} (isProper : proper value) (now : Int) (name : Value) :
    (memory.write now name value).Holds proper where
  current := Named.forall_insert proper holds.current isProper
  history := by
    refine Named.forall_insert
      (fun entries : List Entry => ∀ written ∈ entries, proper written.value)
      holds.history fun written member => ?_
    rcases List.mem_append.mp member with before | new
    · exact holds.of_mem_entries before
    · obtain rfl := List.mem_singleton.mp new
      exact isProper

theorem clearHistory : memory.clearHistory.Holds proper := ⟨holds.current, nofun⟩

end Holds

theorem holds_reset (proper : Value → Prop) (memory : Memory) : memory.reset.Holds proper :=
  ⟨nofun, nofun⟩

end Memory

namespace World

variable {α β : Type} {proper : Value → Prop} {good : α → Prop} {good' : β → Prop}

/-- An operation of memory fails over a proper value: one that cannot name a parameter, or one
that cannot be written. -/
def FailsOver (proper : Value → Prop) (failure : Failure) : Prop :=
  (failure = .notAName ∧ ∃ value, proper value ∧ value.isName = false) ∨
    failure = .integerTooLong ∧ ∃ value, proper value ∧ value.isWritable = false

/-- Where memory holds nothing but proper values, an action gives a good result, and memory holds
nothing else afterwards; or the action fails over a proper value. -/
def Gives (proper : Value → Prop) (good : α → Prop) (action : Action α) : Prop :=
  ∀ world : World, world.memory.Holds proper → match action world with
    | .ok result after => good result ∧ after.memory.Holds proper
    | .error failure _ => FailsOver proper failure

theorem gives_pure {result : α} (isGood : good result) : Gives proper good (pure result) :=
  fun _ holds => ⟨isGood, holds⟩

theorem gives_throw {failure : Failure} (fails : FailsOver proper failure) :
    Gives proper good (throw failure) := fun _ _ => fails

theorem Gives.bind {first : Action α} {next : α → Action β} (one : Gives proper good first)
    (two : ∀ result, good result → Gives proper good' (next result)) :
    Gives proper good' (first >>= next) := by
  intro world holds
  have start := one world holds
  cases done : first world with
  | error failure between =>
      rw [done] at start
      rw [Act.bind_of_error next done]
      exact start
  | ok result between =>
      rw [done] at start
      rw [Act.bind_of_ok next done]
      exact two result start.1 between start.2

theorem gives_needName {name : Value} (isProper : proper name) :
    Gives proper (fun _ => True) (needName name) := by
  cases named : name.isName with
  | true =>
      rw [needName_of_isName named]
      exact gives_pure trivial
  | false =>
      rw [needName, if_neg (by simp [named])]
      exact gives_throw (.inl ⟨rfl, name, isProper, named⟩)

theorem gives_memory {operation : MemoryOperation} {arguments : List Value}
    (absent : proper .absent) (arity : arguments.length = operation.arity)
    (each : ∀ argument ∈ arguments, proper argument) :
    Gives proper proper (operation.run arguments) := by
  cases operation with
  | read =>
      obtain ⟨name, rfl⟩ := List.length_eq_one_iff.mp arity
      exact (gives_needName (each name (by simp))).bind fun _ _ world holds =>
        ⟨holds.read absent name, holds⟩
  | previous =>
      obtain ⟨name, rfl⟩ := List.length_eq_one_iff.mp arity
      exact (gives_needName (each name (by simp))).bind fun _ _ world holds =>
        ⟨holds.previous absent name, holds⟩
  | write =>
      obtain ⟨name, value, rfl⟩ := List.length_eq_two.mp arity
      have written : Gives proper (fun _ => True) (World.write name value) :=
        (gives_needName (each name (by simp))).bind fun _ _ world holds =>
          ⟨trivial, holds.write (each value (by simp)) world.clock name⟩
      exact written.bind fun _ _ => gives_pure absent
  | clearHistory =>
      obtain rfl := List.length_eq_zero_iff.mp arity
      exact fun world holds => ⟨absent, holds.clearHistory⟩
  | reset =>
      obtain rfl := List.length_eq_zero_iff.mp arity
      exact fun world _ => ⟨absent, world.memory.holds_reset proper⟩

end World

namespace Expr

open Act (reached)
open World (Gives FailsOver gives_pure gives_throw gives_memory host)

variable {proper : Value → Prop}

theorem gives_described {result : Value} (isProper : proper result) :
    Gives proper proper (described result) := by
  cases writable : result.isWritable with
  | true =>
      rw [described_of_isWritable writable]
      exact gives_pure isProper
  | false =>
      rw [described_of_not_isWritable writable]
      exact gives_throw (.inr ⟨rfl, result, isProper, writable⟩)

theorem gives_evaluateAll {exprs : List Expr}
    (each : ∀ expr ∈ exprs, Gives proper proper (evaluate host expr)) :
    Gives proper (fun values => values.length = exprs.length ∧ ∀ value ∈ values, proper value)
      (evaluateAll host exprs) := by
  induction exprs with
  | nil => exact gives_pure ⟨rfl, by simp⟩
  | cons expr rest induction =>
      rw [evaluateAll_cons]
      refine (each expr (by simp)).bind fun value isProper => ?_
      have rest := induction fun other member => each other (List.mem_cons_of_mem _ member)
      refine rest.bind fun values both => ?_
      exact gives_pure
        ⟨congrArg (· + 1) both.1, List.forall_mem_cons.mpr ⟨isProper, both.2⟩⟩

theorem OnMemory.gives (embraced : Value.Embraced proper) {expr : Expr}
    (onMemory : expr.OnMemory) : Gives proper proper (evaluate host expr) := by
  induction onMemory with
  | literal value => exact gives_pure (embraced.text value)
  | equals _ _ left right | and _ _ left right | or _ _ left right =>
      exact left.bind fun _ _ => right.bind fun _ _ => gives_pure (embraced.boolean _)
  | matching _ _ induction => exact induction.bind fun _ _ => gives_pure (embraced.boolean _)
  | capture pattern index _ induction =>
      refine induction.bind fun value _ => gives_pure ?_
      cases Pattern.extract? pattern value.asText index with
      | none => exact embraced.absent
      | some captured => exact embraced.text captured
  | @call operation arguments arity _ each =>
      intro world holds
      rw [evaluate_call_of_ok (operation.resolve_name world)]
      refine (gives_evaluateAll each).bind (fun values both => ?_) world holds
      exact (gives_memory embraced.absent (both.1.trans arity) both.2).bind
        fun _ isProper => gives_described isProper

/-- Where memory holds nothing but values that can be written, no value is too long. -/
theorem OnMemory.ne_integerTooLong {expr : Expr} (onMemory : expr.OnMemory) {world after : World}
    (holds : world.memory.Holds fun value => value.isWritable = true) :
    evaluate host expr world ≠ .error .integerTooLong after := by
  intro failed
  have embraced : Value.Embraced fun value => value.isWritable = true :=
    ⟨rfl, fun _ => rfl, fun _ => rfl⟩
  have gives := onMemory.gives embraced world holds
  rw [failed] at gives
  rcases gives with ⟨isFailure, _⟩ | ⟨_, value, writable, unwritable⟩
  · cases isFailure
  · rw [writable] at unwritable
    cases unwritable

/-- An expression that calls nothing but memory fails just if a call is handed a list or a
dictionary for a name, or gives what cannot be written; it fails over the first such call. The
latter takes a memory that holds such a value. Where all values that memory holds are names and
can be written, it gives such a value, and memory holds no others afterwards. -/
theorem evaluate_onMemory {expr : Expr} (onMemory : expr.OnMemory) (world : World) :
    ((∃ value after calls, evaluate host expr world = .ok value after ∧
        evaluate host.traced expr (world, []) = .ok value (after, calls) ∧
        ∀ call ∈ calls, call.HasName) ∨
      (∃ after calls call, evaluate host expr world = .error .notAName after ∧
        evaluate host.traced expr (world, []) = .error .notAName (after, calls ++ [call]) ∧
        (∀ earlier ∈ calls, earlier.HasName) ∧ ¬call.HasName) ∨
      ∃ after calls call, evaluate host expr world = .error .integerTooLong after ∧
        evaluate host.traced expr (world, []) = .error .integerTooLong (after, calls ++ [call]) ∧
        (∀ earlier ∈ calls ++ [call], earlier.HasName) ∧
        ¬world.memory.Holds fun value => value.isWritable = true) ∧
    ((world.memory.Holds fun value => value.isName = true ∧ value.isWritable = true) →
      ∃ value after, evaluate host expr world = .ok value after ∧
        (value.isName = true ∧ value.isWritable = true) ∧
        after.memory.Holds fun value => value.isName = true ∧ value.isWritable = true) := by
  constructor
  · have needs := onMemory.needsNames world []
    have follows := follows_evaluate host expr world []
    cases traced : evaluate host.traced expr (world, []) with
    | ok value reached =>
        rw [traced] at needs follows
        rcases needs with ⟨made, all, named⟩
        refine .inl ⟨value, reached.1, made, follows.symm, ?_, named⟩
        rw [← List.nil_append made, ← all]
    | error failure reached =>
        rw [traced] at needs follows
        rcases needs with ⟨made, call, all, named, ⟨rfl, unnamed⟩ | ⟨rfl, isNamed⟩⟩
        · refine .inr (.inl ⟨reached.1, made, call, follows.symm, ?_, named, unnamed⟩)
          rw [← List.nil_append (made ++ [call]), ← all]
        · refine .inr (.inr ⟨reached.1, made, call, follows.symm, ?_,
            List.forall_mem_append.mpr ⟨named, List.forall_mem_singleton.mpr isNamed⟩,
            fun holds => onMemory.ne_integerTooLong holds follows.symm⟩)
          rw [← List.nil_append (made ++ [call]), ← all]
  · intro holds
    have embraced : Value.Embraced fun value => value.isName = true ∧ value.isWritable = true :=
      ⟨⟨rfl, rfl⟩, fun _ => ⟨rfl, rfl⟩, fun _ => ⟨rfl, rfl⟩⟩
    have gives := onMemory.gives embraced world holds
    cases done : evaluate host expr world with
    | ok value after =>
        rw [done] at gives
        exact ⟨value, after, rfl, gives⟩
    | error failure after =>
        rw [done] at gives
        rcases gives with ⟨_, value, proper, unnamed⟩ | ⟨_, value, proper, unwritable⟩
        · simp [proper.1] at unnamed
        · simp [proper.2] at unwritable

section Slot

/-- Writes a parameter whose name is the value of another one, and forgets all parameters before
it does. -/
def intoSlot : Expr :=
  .call "Memory" "setStateParam"
    [.call "Memory" "getStateParam" [.literal "slot"], .call "Memory" "reset" []]

def slotted : World :=
  (World.fresh {} (Robot.idle [] [] false) []).writeAll [("slot", .text "mood")]

theorem onMemory_read {name : Expr} (onMemory : name.OnMemory) :
    (Expr.call "Memory" "getStateParam" [name]).OnMemory :=
  .call .read rfl (List.forall_mem_singleton.mpr onMemory)

theorem onMemory_intoSlot : intoSlot.OnMemory := by
  refine .call .write rfl (List.forall_mem_cons.mpr ⟨onMemory_read (.literal _), ?_⟩)
  exact List.forall_mem_singleton.mpr (.call .reset rfl nofun)

theorem evaluate_onMemory_intoSlot : intoSlot.OnMemory ∧
    (slotted.memory.Holds fun value => value.isName = true ∧ value.isWritable = true) ∧
    ∃ value after, evaluate host intoSlot slotted = .ok value after ∧
      (value.isName = true ∧ value.isWritable = true) ∧
      after.memory.Holds fun value => value.isName = true ∧ value.isWritable = true := by
  have holds : slotted.memory.Holds fun value => value.isName = true ∧ value.isWritable = true :=
    ⟨by decide, by decide⟩
  exact ⟨onMemory_intoSlot, holds, (evaluate_onMemory onMemory_intoSlot slotted).2 holds⟩

end Slot

section Conversation

/-- Reads the parameter whose name is the conversation. -/
def ofConversation : Expr :=
  .call "Memory" "getStateParam" [.call "Memory" "getStateParam" [.literal "conversationHistory"]]

/-- A world in which something was heard. -/
def spokenTo : World :=
  reached (Event.hear "hi" "en" (World.fresh {} (Robot.idle [] [] false) []))

theorem not_evaluate_onMemory_conversation : ofConversation.OnMemory ∧
    evaluate host ofConversation spokenTo = .error .notAName spokenTo :=
  ⟨onMemory_read (onMemory_read (.literal _)), rfl⟩

end Conversation

end Expr

end RobotRules
