import RobotRules.Proofs.Memory.WriteLog

/-! What writes to some parameters leave alone. All other parameters keep their value and their
history, and the history of each parameter only grows at its end. -/

namespace RobotRules.Memory

/-- A name is none of some texts. -/
def Name.Outside (names : List Text) (name : Name) : Prop :=
  ∀ text ∈ names, name.val ≠ .text text

theorem Name.Outside.not_same {names : List Text} {name : Name} (outside : name.Outside names)
    {text : Text} (member : text ∈ names) : ¬(Value.text text).same name.val = true :=
  fun same => outside text member (Value.text_same_iff.mp same)

/-- A memory has become another one by nothing but writes to some parameters. -/
structure Grows (names : List Text) (before after : Memory) : Prop where
  current : ∀ name : Name, name.Outside names →
    after.current.find? name.val = before.current.find? name.val
  history : ∀ name : Name, name.Outside names →
    after.history.find? name.val = before.history.find? name.val
  entries : ∀ name : Name, before.entries name.val <+: after.entries name.val

namespace Grows

variable {names : List Text} {before between after : Memory} {name : Name}

theorem refl (names : List Text) (memory : Memory) : Grows names memory memory :=
  ⟨fun _ _ => rfl, fun _ _ => rfl, fun _ => List.prefix_rfl⟩

theorem trans (first : Grows names before between) (second : Grows names between after) :
    Grows names before after where
  current name outside := (second.current name outside).trans (first.current name outside)
  history name outside := (second.history name outside).trans (first.history name outside)
  entries name := (first.entries name).trans (second.entries name)

theorem write {text : Text} (member : text ∈ names) (now : Int) (value : Value)
    (memory : Memory) : Grows names memory (memory.write now (.text text) value) where
  current name outside := by
    rw [Memory.write, Named.find?_insert rfl name.property, if_neg (outside.not_same member)]
  history name outside := by
    rw [Memory.write, Named.find?_insert rfl name.property, if_neg (outside.not_same member)]
  entries name := by
    rw [Memory.entries, Memory.entries, Memory.write, Named.find?_insert rfl name.property]
    split_ifs with same
    · rw [Value.text_same_iff.mp same, Option.getD_some]
      exact List.prefix_append _ _
    · exact List.prefix_rfl

theorem addTurn (member : "conversationHistory".toList ∈ names) (now : Int) (role text : Value)
    (memory : Memory) : Grows names memory (memory.addTurn now role text) :=
  write member now _ memory

/-! What memory tells of a parameter that was not written. -/

theorem entries_eq (grows : Grows names before after) (outside : name.Outside names) :
    after.entries name.val = before.entries name.val := by
  rw [Memory.entries, Memory.entries, grows.history name outside]

theorem previous_eq (grows : Grows names before after) (outside : name.Outside names) :
    after.previous name.val = before.previous name.val := by
  rw [previous, previous, grows.entries_eq outside]

end Grows

end RobotRules.Memory
