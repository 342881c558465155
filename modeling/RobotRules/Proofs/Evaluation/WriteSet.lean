import RobotRules.Proofs.Capability.Naming
import RobotRules.Proofs.Evaluation.Footprint
import RobotRules.Proofs.Memory.Growth

/-! Which parameters an expression writes is seen from its tree: those that calls of memory name
outright, and the conversation if something is spoken. It does not matter where the calls stand
or whether they fail. All other parameters are left as they are, and even of those that are
written nothing is lost. -/

namespace RobotRules

open Act (reached Keeps)

/-! What is seen from the tree. -/

def Expr.isLiteral : Expr → Bool
  | .literal _ => true
  | _ => false

namespace CallNode

def speaks (node : CallNode) : Bool :=
  node.receiver == Capability.speech.name && node.method == "speak".toList

/-- A call that writes a parameter names it outright, and no call forgets parameters. Without
any argument nothing is written. -/
def IsPlain (node : CallNode) : Prop :=
  node.receiver = World.memoryReceiver →
    node.method ≠ "reset" ∧ node.method ≠ "clearHistory" ∧
      (node.method = "setStateParam" → ∀ name ∈ node.arguments.head?, name.isLiteral = true)

instance (node : CallNode) : Decidable node.IsPlain :=
  inferInstanceAs (Decidable (_ → _ ∧ _ ∧ (_ → ∀ name ∈ _, _)))

/-- The parameters that a call can write are among some. -/
structure Within (names : List Text) (node : CallNode) : Prop where
  plain : node.IsPlain
  named : ∀ name, node.named? "setStateParam" = some name → name ∈ names
  spoken : node.speaks = true → "conversationHistory".toList ∈ names

end CallNode

namespace Expr

def IsPlain (expr : Expr) : Prop := ∀ node ∈ expr.callNodes, node.IsPlain

instance (expr : Expr) : Decidable expr.IsPlain :=
  inferInstanceAs (Decidable (∀ node ∈ expr.callNodes, node.IsPlain))

/-- The parameters that an expression can write: those that it names, and the conversation if it
speaks. -/
def writeSet (expr : Expr) : List Text :=
  expr.writtenNames ++
    if expr.callNodes.any CallNode.speaks then ["conversationHistory".toList] else []

example : writeSet (.and (.call "TTS" "speak" [.literal "x"])
    (.call "Memory" "setStateParam" [.literal "a", .call "Move" "isMoving" []])) =
      ["a".toList, "conversationHistory".toList] := rfl

theorem within_writeSet {expr : Expr} (plain : expr.IsPlain) :
    ∀ node ∈ expr.callNodes, node.Within expr.writeSet := by
  intro node member
  refine ⟨plain node member, fun name named => ?_, fun speaks => ?_⟩
  · exact List.mem_append_left _ (List.mem_filterMap.mpr ⟨node, member, named⟩)
  · have spoken : expr.callNodes.any CallNode.speaks = true :=
      List.any_eq_true.mpr ⟨node, member, speaks⟩
    exact List.mem_append_right _ (by simp [spoken])

theorem evaluateAll_literal_cons {σ : Type} {host : Host σ} {name : Text} {rest : List Expr}
    {values : List Value} {before after : σ}
    (done : evaluateAll host (.literal name :: rest) before = .ok values after) :
    ∃ others, values = .text name :: others := by
  rw [evaluateAll_cons] at done
  rcases Act.bind_eq_ok_iff.mp done with ⟨value, middle, first, later⟩
  rcases Act.bind_eq_ok_iff.mp later with ⟨others, last, _, same⟩
  cases first
  cases same
  exact ⟨others, rfl⟩

end Expr

/-- The value by which a call writes a parameter is the name that stands there. -/
theorem CallNode.Within.name_mem {names : List Text} {node : CallNode} (within : node.Within names)
    (isMemory : node.receiver = World.memoryReceiver) (writing : node.method = "setStateParam")
    {σ : Type} {host : Host σ} {name : Value} {others : List Value} {before after : σ}
    (done : Expr.evaluateAll host node.arguments before = .ok (name :: others) after) :
    ∃ text ∈ names, name = .text text := by
  rcases node with ⟨receiver, method, _ | ⟨first, rest⟩⟩
  · cases done
  · have literal : first.isLiteral = true := (within.plain isMemory).2.2 writing first rfl
    cases first with
    | literal text =>
        rcases Expr.evaluateAll_literal_cons done with ⟨_, same⟩
        exact ⟨text, within.named text (if_pos ⟨isMemory, writing⟩), (List.cons.inj same).1⟩
    | _ => cases literal

namespace World

variable {α β : Type} {names : List Text} {node : CallNode} {before after : World}

/-- Where each capability is under its own name, an action leaves it so, and it writes no
parameters but some, whether it gives a result or fails. -/
def Writes (names : List Text) (action : Action α) : Prop :=
  ∀ world : World, world.UnderOwnNames →
    (reached (action world)).UnderOwnNames ∧
      world.memory.Grows names (reached (action world)).memory

theorem writes_of_spares {action : Action α} (keeps : Keeps UnderOwnNames action)
    (spares : Spares .conversation action) : Writes names action := by
  intro world named
  refine ⟨keeps world named, ?_⟩
  rw [(spares world).stays.2.1]
  exact .refl names world.memory

theorem writes_pure (value : α) : Writes names (pure value) :=
  writes_of_spares (Act.keeps_pure value) (spares_pure value)

theorem writes_throw (failure : Failure) : Writes names (throw failure : Action α) :=
  writes_of_spares (Act.keeps_throw failure) (spares_throw failure)

theorem Writes.bind {first : Action α} {next : α → Action β} (one : Writes names first)
    (two : ∀ {before after value}, first before = .ok value after → Writes names (next value)) :
    Writes names (first >>= next) := by
  intro world named
  refine Act.reached_bind (fun after : World => after.UnderOwnNames ∧
    world.memory.Grows names after.memory) (one world named) fun done start => ?_
  have rest := two done _ start.1
  exact ⟨rest.1, start.2.trans rest.2⟩

/-! Single changes. -/

theorem writes_write {text : Text} (member : text ∈ names) (value : Value) :
    Writes names (write (.text text) value) :=
  fun world named => ⟨named.of_eq rfl, .write member world.clock value world.memory⟩

theorem writes_addLine (member : "conversationHistory".toList ∈ names) (role text : Text) :
    Writes names (addLine role text) :=
  fun world named => ⟨named.of_eq rfl, .addTurn member world.clock _ _ world.memory⟩

theorem writes_tell (action : RobotAction) : Writes names (tell action) :=
  fun world named => ⟨named.of_eq rfl, .refl names world.memory⟩

theorem writes_pause (milliseconds : Nat) : Writes names (Speech.pause milliseconds) :=
  writes_of_spares (fun world named => named.of_eq (spares_pause milliseconds world).registry_eq)
    (spares_pause milliseconds)

/-! Operations. -/

theorem writes_speak (member : "conversationHistory".toList ∈ names) (text : Value) :
    Writes names (Speech.speak text) := by
  unfold Speech.speak
  split
  · split
    · exact writes_pure _
    · refine (writes_addLine member _ _).bind fun _ => ?_
      refine (writes_tell _).bind fun _ => (writes_pause _).bind fun _ => ?_
      exact (writes_tell _).bind fun _ => (writes_pause _).bind fun _ => writes_pure _
  · exact writes_pure _

/-- Only speech offers to speak. -/
theorem UnderOwnNames.speaks_of_offers (named : before.UnderOwnNames)
    (offers : before.Offers node.receiver node.method .speak) : node.speaks = true := by
  have receiver : node.receiver = Capability.speech.name :=
    named.eq_of_offers (Operation.isOwn_owner (List.mem_singleton_self Part.conversation)) offers
  rcases Option.bind_eq_some_iff.mp offers with ⟨capability, _, offered⟩
  have entry : (node.method, Operation.speak) ∈ Capability.speech.operations :=
    Capability.operations_owner offered ▸ Apps.mem_of_find? offered
  have method : node.method = "speak".toList := by simpa [Capability.operations] using entry
  simp [CallNode.speaks, receiver, method]

theorem writes_run {operation : Operation} (within : node.Within names)
    (named : before.UnderOwnNames) (offers : before.Offers node.receiver node.method operation)
    (arguments : List Value) : Writes names (operation.run node.receiver arguments) := by
  cases operation with
  | speak =>
      have member := within.spoken (named.speaks_of_offers offers)
      match arguments with
      | [text] => exact writes_speak member text
      | [] | _ :: _ :: _ => exact writes_throw .argumentCount
  | _ =>
      -- nothing else that capabilities do touches memory
      exact writes_of_spares (named.keeps_run offers arguments)
        (spares_run (by simp [Operation.touches]) node.receiver arguments)

theorem writes_memory {operation : MemoryOperation} {arguments : List Value}
    (within : node.Within names) (isMemory : node.receiver = memoryReceiver)
    (found : Apps.find? node.method MemoryOperation.all = some operation)
    (done : Expr.evaluateAll host node.arguments before = .ok arguments after) :
    Writes names (operation.run arguments) := by
  have called : node.method = operation.name := MemoryOperation.eq_name_of_find? found
  cases operation with
  | read | previous =>
      exact writes_of_spares (UnderOwnNames.keeps_memory _ arguments)
        (spares_of_reads (reads_memory rfl arguments))
  | write =>
      match arguments with
      | [name, value] =>
          obtain ⟨text, member, rfl⟩ := within.name_mem isMemory called done
          exact (writes_write member value).bind fun _ => writes_pure _
      | [] | [_] | _ :: _ :: _ :: _ => exact writes_throw .argumentCount
  | clearHistory => exact absurd called (within.plain isMemory).2.1
  | reset => exact absurd called (within.plain isMemory).1

end World

namespace Expr

open World (Writes writes_pure writes_throw host)

variable {names : List Text}

theorem writes_described (result : Value) : Writes names (described result) := by
  unfold described
  split
  · exact writes_pure result
  · exact writes_throw _

mutual
theorem writes_evaluate : ∀ expr : Expr, (∀ node ∈ callNodes expr, node.Within names) →
    Writes names (evaluate host expr)
  | .literal _, _ => writes_pure _
  | .equals left right, within | .and left right, within | .or left right, within =>
      (writes_evaluate left fun node member => within node (List.mem_append_left _ member)).bind
        fun _ => (writes_evaluate right fun node member =>
          within node (List.mem_append_right _ member)).bind fun _ => writes_pure _
  | .matching _ text, within | .capture _ text _, within =>
      (writes_evaluate text within).bind fun _ => writes_pure _
  | .call receiver method arguments, within => by
      have here : CallNode.Within names ⟨receiver, method, arguments⟩ :=
        within _ (List.mem_append_right _ (List.mem_singleton_self _))
      have behind : Writes names (evaluateAll host arguments) :=
        writes_evaluateAll arguments fun node member =>
          within node (List.mem_append_left _ member)
      intro world named
      cases resolved : host.resolve receiver method world with
      | error failure =>
          rw [evaluate_call_of_error resolved]
          exact writes_throw (α := Value) failure world named
      | ok found =>
          -- what the call names was looked up before the arguments, in a world where names fit
          rw [evaluate_call_of_ok resolved]
          refine behind.bind (fun done => ?_) world named
          rcases World.resolve_cases resolved with
            ⟨isMemory, operation, called, rfl⟩ | ⟨operation, offers, rfl⟩
          · exact (World.writes_memory here isMemory called done).bind fun _ => writes_described _
          · exact (World.writes_run here named offers _).bind fun _ => writes_described _
  | .foreign _, _ => writes_throw _

theorem writes_evaluateAll : ∀ exprs : List Expr, (∀ node ∈ callNodesIn exprs, node.Within names) →
    Writes names (evaluateAll host exprs)
  | [], _ => writes_pure _
  | expr :: rest, within =>
      (writes_evaluate expr fun node member => within node (List.mem_append_left _ member)).bind
        fun _ => (writes_evaluateAll rest fun node member =>
          within node (List.mem_append_right _ member)).bind fun _ => writes_pure _
end

/-- Where each capability is under its own name, as it is after `equip`, an expression leaves all
parameters as they are but those of its write set, whether it gives a value or fails. The
histories of these only become longer. -/
theorem evaluate_writes_only {world : World} (named : world.UnderOwnNames) {expr : Expr}
    (plain : expr.IsPlain) :
    let after := (reached (evaluate host expr world)).memory
    (∀ name : Memory.Name, name.Outside expr.writeSet →
      after.current.find? name.val = world.memory.current.find? name.val ∧
      after.history.find? name.val = world.memory.history.find? name.val ∧
      after.previous name.val = world.memory.previous name.val) ∧
    ∀ name : Memory.Name, world.memory.entries name.val <+: after.entries name.val := by
  have grows := (writes_evaluate expr (within_writeSet plain) world named).2
  exact ⟨fun name outside => ⟨grows.current name outside, grows.history name outside,
    grows.previous_eq outside⟩, grows.entries⟩

section Greeting

/-- The answer to a greeting is noted, and then the robot is told to stop in a wrong way. -/
def greeting : Expr :=
  .and (.call "Memory" "setStateParam" [.literal "greeted", .call "TTS" "speak" [.literal "Hello"]])
    (.call "Move" "stopMovement" [.literal "now"])

/-- A world with two capabilities where the mood has changed. -/
def hall : World :=
  reached (World.equip ["Move", "TTS"]
    { (World.fresh {} (Robot.idle [] [] false) []).writeAll
        [("mood", .text "calm"), ("mood", .text "glad")] with registry := [] })

theorem evaluate_writes_only_greeting :
    hall.UnderOwnNames ∧ greeting.IsPlain ∧
    greeting.writeSet = ["greeted".toList, "conversationHistory".toList] ∧
    let result := evaluate host greeting hall
    result = .error .argumentCount (reached result) ∧
      (reached result).memory.hasHistory (.text "greeted") = true ∧
      (reached result).memory.turns.length = 1 ∧
      (reached result).memory.previous (.text "mood") = .text "calm" ∧
      hall.memory.entries (.text "mood") <+: (reached result).memory.entries (.text "mood") := by
  have named : hall.UnderOwnNames := World.underOwnNames_equip ["Move", "TTS"] rfl
  have plain : greeting.IsPlain := by decide
  have only := evaluate_writes_only named plain
  have written : greeting.writeSet = ["greeted".toList, "conversationHistory".toList] := rfl
  have outside : Memory.Name.Outside greeting.writeSet ⟨.text "mood", rfl⟩ := by
    simp [Memory.Name.Outside, written]
  refine ⟨named, plain, written, rfl, by decide +kernel, by decide +kernel, ?_, only.2 ⟨_, rfl⟩⟩
  exact (only.1 _ outside).2.2

end Greeting

end Expr

end RobotRules
