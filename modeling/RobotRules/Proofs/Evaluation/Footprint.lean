import RobotRules.Proofs.Evaluation.Order
import RobotRules.Proofs.Memory.Legible
import RobotRules.Rule.Basic

/-! Expressions that deal with nothing but memory, under names that are written in them. Which
parameters such an expression reads and which it writes is seen from its tree. Where the
parameters that it reads are the same, the same comes of it and it does the same writes; and it
does not fail where they are legible. -/

namespace RobotRules

namespace CallNode

/-- The name of the parameter that a call of memory is about, if it calls the method. -/
def named? (method : Text) (node : CallNode) : Option Text :=
  if node.receiver = World.memoryReceiver ∧ node.method = method then
    match node.arguments with
    | .literal name :: _ => some name
    | _ => none
  else none

end CallNode

namespace Expr

/-- The parameters that are read, in the order of evaluation. -/
def readNames (expr : Expr) : List Text :=
  expr.callNodes.filterMap (CallNode.named? "getStateParam")

/-- The parameters that are written, in the order of evaluation. -/
def writtenNames (expr : Expr) : List Text :=
  expr.callNodes.filterMap (CallNode.named? "setStateParam")

/-- All calls read or write a parameter whose name is written there. -/
inductive IsDirect : Expr → Prop
  | literal (value : Text) : IsDirect (.literal value)
  | read (name : Text) : IsDirect (.call "Memory" "getStateParam" [.literal name])
  | write (name : Text) {value : Expr} : IsDirect value →
      IsDirect (.call "Memory" "setStateParam" [.literal name, value])
  | equals {left right : Expr} : IsDirect left → IsDirect right → IsDirect (.equals left right)
  | and {left right : Expr} : IsDirect left → IsDirect right → IsDirect (.and left right)
  | or {left right : Expr} : IsDirect left → IsDirect right → IsDirect (.or left right)
  | matching (pattern : Text) {text : Expr} : IsDirect text → IsDirect (.matching pattern text)
  | capture (pattern : Text) {text : Expr} (index : Int) : IsDirect text →
      IsDirect (.capture pattern text index)

theorem callNodes_call_pair (receiver method name : Text) (value : Expr) :
    callNodes (.call receiver method [.literal name, value]) =
      callNodes value ++ [⟨receiver, method, [.literal name, value]⟩] := by
  simp [callNodes, callNodesIn]

theorem readNames_write (name : Text) (value : Expr) :
    readNames (.call "Memory" "setStateParam" [.literal name, value]) = readNames value := by
  rw [readNames, callNodes_call_pair, List.filterMap_append]
  exact List.append_nil _

theorem writtenNames_write (name : Text) (value : Expr) :
    writtenNames (.call "Memory" "setStateParam" [.literal name, value]) =
      writtenNames value ++ [name] := by
  rw [writtenNames, callNodes_call_pair, List.filterMap_append]
  rfl

example : writtenNames (.and (.call "Memory" "setStateParam" [.literal "a",
    .call "Memory" "setStateParam" [.literal "b", .literal "c"]])
    (.call "Memory" "getStateParam" [.literal "d"])) = ["b".toList, "a".toList] := rfl

end Expr

namespace World

/-- Writes values to parameters one after the other. -/
def writeAll (writes : List (Text × Value)) (world : World) : World :=
  { world with memory := world.memory.writeAll world.clock writes }

theorem writeAll_append (writes others : List (Text × Value)) (world : World) :
    world.writeAll (writes ++ others) = (world.writeAll writes).writeAll others := by
  unfold writeAll
  rw [Memory.writeAll_append]

variable {α β : Type} {reads writes : List Text}

/-- What comes of an action and what it writes depends on what it reads, and on nothing else. It
does nothing but these writes, which can be read again. Where all that it reads is legible, it
does not fail. -/
def Confined (reads writes : List Text) (action : Action α) : Prop :=
  ∀ world : World, ∃ outcome made,
    (∀ entry ∈ made, entry.1 ∈ writes ∧ entry.2.isWritable = true) ∧
    ((∀ name ∈ reads, world.memory.Legible name) → ∃ value, outcome = .ok value) ∧
    ∀ other : World, world.memory.Shares reads other.memory →
      action other = Act.give outcome (other.writeAll made)

theorem confined_pure (value : α) : Confined [] [] (pure value) :=
  fun _ => ⟨.ok value, [], by simp, fun _ => ⟨value, rfl⟩, fun _ _ => rfl⟩

namespace Confined

variable {reads' writes' : List Text} {action : Action α}

theorem mono (confined : Confined reads writes action) (readsWithin : reads ⊆ reads')
    (writesWithin : writes ⊆ writes') : Confined reads' writes' action := by
  intro world
  rcases confined world with ⟨outcome, made, among, succeeds, runs⟩
  exact ⟨outcome, made, fun entry member => ⟨writesWithin (among entry member).1,
    (among entry member).2⟩, fun legible => succeeds fun name member =>
      legible name (readsWithin member), fun other shares => runs other (shares.mono readsWithin)⟩

theorem bind {next : α → Action β} (first : Confined reads writes action)
    (second : ∀ {before after value}, action before = .ok value after →
      Confined reads' writes' (next value)) :
    Confined (reads ++ reads') (writes ++ writes') (action >>= next) := by
  intro world
  rcases first world with ⟨outcome, made, among, succeeds, runs⟩
  have early : ∀ entry ∈ made, entry.1 ∈ writes ++ writes' ∧ entry.2.isWritable = true :=
    fun entry member => ⟨List.mem_append_left _ (among entry member).1, (among entry member).2⟩
  have before {other : World} (shares : world.memory.Shares (reads ++ reads') other.memory) :=
    runs other (shares.mono (List.subset_append_left reads reads'))
  cases outcome with
  | error failure =>
      refine ⟨.error failure, made, early, fun legible => ?_, fun other shares =>
        Act.bind_of_error next (before shares)⟩
      rcases succeeds (List.forall_mem_append.mp legible).1 with ⟨value, given⟩
      cases given
  | ok value =>
      rcases second (runs world (.refl _ _)) (world.writeAll made) with
        ⟨outcome', made', among', succeeds', runs'⟩
      refine ⟨outcome', made ++ made', ?_, fun legible => succeeds' fun name member => ?_,
        fun other shares => ?_⟩
      · refine List.forall_mem_append.mpr ⟨early, fun entry member => ?_⟩
        exact ⟨List.mem_append_right _ (among' entry member).1, (among' entry member).2⟩
      · exact ((List.forall_mem_append.mp legible).2 name member).writeAll
          (fun entry isMade => (among entry isMade).2) world.clock
      · have after := (shares.mono (List.subset_append_right reads reads')).writeAll
          world.clock other.clock made
        rw [Act.bind_of_ok next (before shares), runs' (other.writeAll made) after,
          writeAll_append]

/-- What is done with the value reads and writes nothing. -/
theorem map (confined : Confined reads writes action) (f : α → β) :
    Confined reads writes (action >>= fun value => pure (f value)) := by
  have both : Confined (reads ++ []) (writes ++ []) (action >>= fun value => pure (f value)) :=
    confined.bind fun _ => confined_pure _
  rwa [List.append_nil, List.append_nil] at both

/-- With all that it reads legible, an action gives a value. -/
theorem exists_value (confined : Confined reads writes action) {world : World}
    (legible : ∀ name ∈ reads, world.memory.Legible name) : ∃ value made,
    (∀ entry ∈ made, entry.1 ∈ writes) ∧
      ∀ other : World, world.memory.Shares reads other.memory →
        action other = .ok value (other.writeAll made) := by
  rcases confined world with ⟨outcome, made, among, succeeds, runs⟩
  rcases succeeds legible with ⟨value, rfl⟩
  exact ⟨value, made, fun entry member => (among entry member).1, runs⟩

end Confined

theorem confined_write (name : Text) {value : Value} (writable : value.isWritable = true) :
    Confined [] [name] (MemoryOperation.run .write [.text name, value]) :=
  fun _ => ⟨.ok .absent, [(name, value)], by simpa using writable, fun _ => ⟨_, rfl⟩,
    fun _ _ => rfl⟩

end World

namespace Expr

open World (Confined confined_pure confined_write host)

theorem evaluateAll_literal_pair (name : Text) (value : Expr) :
    evaluateAll host [.literal name, value] =
      evaluate host value >>= fun value => pure [.text name, value] := by
  simp [evaluateAll, evaluate]

/-- A parameter is read if it is legible. -/
theorem evaluate_read {name : Text} {world : World} (legible : world.memory.Legible name) :
    evaluate host (.call "Memory" "getStateParam" [.literal name]) world =
      .ok (world.memory.read (.text name)) world := by
  have resolved : host.resolve "Memory" "getStateParam" world =
      .ok (MemoryOperation.run .read) := rfl
  rw [evaluate_call_of_ok resolved]
  exact congrFun (described_of_isWritable legible) world

theorem evaluate_read_of_illegible {name : Text} {world : World}
    (illegible : ¬world.memory.Legible name) :
    evaluate host (.call "Memory" "getStateParam" [.literal name]) world =
      .error .integerTooLong world := by
  have resolved : host.resolve "Memory" "getStateParam" world =
      .ok (MemoryOperation.run .read) := rfl
  rw [evaluate_call_of_ok resolved]
  exact congrFun (described_of_not_isWritable (eq_false_of_ne_true illegible)) world

theorem confined_evaluate_read (name : Text) :
    Confined [name] [] (evaluate host (.call "Memory" "getStateParam" [.literal name])) := by
  intro world
  have alike {other : World} (shares : world.memory.Shares [name] other.memory) :
      other.memory.read (.text name) = world.memory.read (.text name) :=
    (shares name (List.mem_singleton_self name)).symm
  by_cases legible : world.memory.Legible name
  · refine ⟨.ok (world.memory.read (.text name)), [], by simp, fun _ => ⟨_, rfl⟩,
      fun other shares => ?_⟩
    have there : other.memory.Legible name := by
      rwa [Memory.Legible, alike shares]
    rw [evaluate_read there, alike shares]
    rfl
  · refine ⟨.error .integerTooLong, [], by simp, fun all => ?_, fun other shares => ?_⟩
    · exact absurd (all name (List.mem_singleton_self name)) legible
    · have there : ¬other.memory.Legible name := by
        rwa [Memory.Legible, alike shares]
      exact evaluate_read_of_illegible there

theorem evaluate_write (name : Text) (value : Expr) :
    evaluate host (.call "Memory" "setStateParam" [.literal name, value]) =
      evaluate host value >>= fun value => MemoryOperation.run .write [.text name, value] := by
  funext world
  have resolved : host.resolve "Memory" "setStateParam" world =
      .ok (MemoryOperation.run .write) := rfl
  rw [evaluate_call_of_ok resolved, evaluateAll_literal_pair, bind_assoc]
  rfl

/-- An expression does not reach farther than its tree shows. -/
theorem IsDirect.confined {expr : Expr} (direct : expr.IsDirect) :
    Confined expr.readNames expr.writtenNames (evaluate host expr) := by
  induction direct with
  | literal value => exact confined_pure _
  | read name => exact confined_evaluate_read name
  | @write name value _ induction =>
      rw [readNames_write, writtenNames_write, evaluate_write, ← List.append_nil value.readNames]
      exact induction.bind fun done => confined_write name (isWritable_of_evaluate done)
  | equals _ _ left right | and _ _ left right | or _ _ left right =>
      simp only [readNames, writtenNames, callNodes, List.filterMap_append]
      exact left.bind fun _ => right.map _
  | matching _ _ induction | capture _ _ _ induction => exact induction.map _

theorem confined_runAll {exprs : List Expr} (direct : ∀ expr ∈ exprs, expr.IsDirect) :
    Confined (exprs.flatMap readNames) (exprs.flatMap writtenNames) (runAll host exprs) := by
  induction exprs with
  | nil => exact confined_pure ()
  | cons expr rest induction =>
      rw [List.flatMap_cons, List.flatMap_cons]
      exact (direct expr (by simp)).confined.bind fun _ =>
        induction fun other member => direct other (List.mem_cons_of_mem _ member)

end Expr

namespace Rule

/-- Both the condition and the actions deal with nothing but memory. -/
structure IsDirect (rule : Rule) : Prop where
  condition : rule.condition.IsDirect
  actions : ∀ action ∈ rule.actions, action.IsDirect

/-- The parameters that the condition or an action reads. -/
def readNames (rule : Rule) : List Text :=
  rule.condition.readNames ++ rule.actions.flatMap Expr.readNames

/-- The parameters that the condition or an action writes. -/
def writtenNames (rule : Rule) : List Text :=
  rule.condition.writtenNames ++ rule.actions.flatMap Expr.writtenNames

end Rule

end RobotRules
