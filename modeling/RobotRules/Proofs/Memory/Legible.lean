import RobotRules.Proofs.Memory.Agreement
import RobotRules.Value.Printed

/-! Parameters that rules can read. Whatever a rule reads is written down, and an integer with
too many digits cannot be written. Writes of values that can be written keep parameters
legible. -/

namespace RobotRules

namespace Value

theorem areWritable_append (items others : List Value) :
    areWritable (items ++ others) = (areWritable items && areWritable others) := by
  induction items with
  | nil => rfl
  | cons item rest induction =>
      rw [List.cons_append, areWritable, areWritable, induction, Bool.and_assoc]

end Value

namespace Memory

/-- The value of a parameter can be written. -/
def Legible (name : Text) (memory : Memory) : Prop :=
  (memory.read (.text name)).isWritable = true

/-- Texts are legible, however long they are. -/
theorem legible_of_text {name text : Text} {memory : Memory}
    (found : memory.read (.text name) = .text text) : memory.Legible name := by
  rw [Legible, found]
  rfl

theorem legible_empty (name : Text) : empty.Legible name := rfl

theorem legible_reset (name : Text) (memory : Memory) : memory.reset.Legible name := rfl

namespace Legible

variable {name : Text} {memory : Memory} (legible : memory.Legible name)

include legible

theorem clearHistory : memory.clearHistory.Legible name := legible

/-- A write puts its value under the name, or leaves what is there. -/
theorem write {value : Value} (writable : value.isWritable = true) (now : Int) (written : Value) :
    (memory.write now written value).Legible name := by
  by_cases same : written = .text name
  · unfold Legible
    rw [same, read_write_text, if_pos rfl]
    exact writable
  · unfold Legible read
    rw [Memory.write, Named.find?_insert_of_ne_text same]
    exact legible

theorem writeAll {writes : List (Text × Value)}
    (writable : ∀ entry ∈ writes, entry.2.isWritable = true) (now : Int) :
    (memory.writeAll now writes).Legible name := by
  induction writes generalizing memory with
  | nil => exact legible
  | cons entry rest induction =>
      rw [List.forall_mem_cons] at writable
      exact induction (legible.write writable.1 now _) writable.2

/-- A turn is added to what was said before, and so the conversation stays legible. -/
theorem addTurn (now : Int) (role text : Text) :
    (memory.addTurn now (.text role) (.text text)).Legible name := by
  by_cases isConversation : "conversationHistory".toList = name
  · have turns : Value.areWritable memory.turns = true := by
      have before : (memory.read conversation).isWritable = true := by
        rw [conversation, isConversation]
        exact legible
      unfold Memory.turns
      split
      · rename_i listed
        rwa [listed, Value.isWritable] at before
      · rfl
    refine legible.write ?_ now conversation
    rw [Value.isWritable, Value.areWritable_append, turns]
    rfl
  · unfold Legible
    rw [Memory.addTurn, conversation, read_write_text, if_neg isConversation]
    exact legible

end Legible

end Memory

end RobotRules
