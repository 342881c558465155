import Mathlib.Data.List.Chain
import RobotRules.Memory
import RobotRules.Proofs.Value.Names

/-! The conversation in memory. It grows by the turns that are added to it, and writes to other
parameters leave it alone. So the entries of its history are longer and longer, each by one
turn. -/

namespace RobotRules

/-- One entry of a history is a conversation that another one has one more turn of. -/
def Entry.Extends (earlier later : Entry) : Prop :=
  ∃ turns turn, earlier.value = .list turns ∧ later.value = .list (turns ++ [turn])

namespace Memory

variable {name : Value} {memory : Memory}

theorem read_write_text (now : Int) (written name : Text) (value : Value) (memory : Memory) :
    (memory.write now (.text written) value).read (.text name) =
      if written = name then value else memory.read (.text name) := by
  rw [read, write, Named.find?_insert_text]
  split_ifs <;> rfl

/-- A write comes at the end of the history. -/
theorem entries_write_text (now : Int) (name : Text) (value : Value) (memory : Memory) :
    (memory.write now (.text name) value).entries (.text name) =
      memory.entries (.text name) ++ [⟨value, max now memory.latest⟩] := by
  rw [entries, write, Named.find?_insert_text, if_pos rfl]
  rfl

theorem read_addTurn_of_ne {name : Text} (different : "conversationHistory".toList ≠ name)
    (now : Int) (role text : Value) (memory : Memory) :
    (memory.addTurn now role text).read (.text name) = memory.read (.text name) := by
  rw [addTurn, conversation, read_write_text, if_neg different]

theorem text_ne_conversation {name : Text} (different : name ≠ "conversationHistory".toList) :
    .text name ≠ conversation := fun same => different (Value.text.inj same)

theorem turns_write_of_ne (different : name ≠ conversation) (now : Int) (value : Value)
    (memory : Memory) : (memory.write now name value).turns = memory.turns := by
  rw [turns, turns, read, read, write, conversation, Named.find?_insert_of_ne_text different]

theorem entries_write_of_ne (different : name ≠ conversation) (now : Int) (value : Value)
    (memory : Memory) :
    (memory.write now name value).entries conversation = memory.entries conversation := by
  rw [entries, entries, write, conversation, Named.find?_insert_of_ne_text different]

theorem turns_addTurn (now : Int) (role text : Value) (memory : Memory) :
    (memory.addTurn now role text).turns = memory.turns ++ [turn role text] := by
  rw [addTurn, turns.eq_def, conversation, read_write_text, if_pos rfl]

theorem entries_addTurn (now : Int) (role text : Value) (memory : Memory) :
    (memory.addTurn now role text).entries conversation = memory.entries conversation ++
      [⟨.list (memory.turns ++ [turn role text]), max now memory.latest⟩] := by
  rw [addTurn, conversation, entries_write_text]

/-- The entries of the conversation grow turn by turn up to the conversation as it is. -/
structure GrowsByTurns (memory : Memory) : Prop where
  chain : (memory.entries conversation).IsChain Entry.Extends
  latest : ∀ entry, (memory.entries conversation).getLast? = some entry →
    entry.value = .list memory.turns

namespace GrowsByTurns

theorem write_of_ne (grows : memory.GrowsByTurns) (different : name ≠ conversation) (now : Int)
    (value : Value) : (memory.write now name value).GrowsByTurns where
  chain := by
    rw [entries_write_of_ne different]
    exact grows.chain
  latest := by
    rw [entries_write_of_ne different, turns_write_of_ne different]
    exact grows.latest

theorem addTurn (grows : memory.GrowsByTurns) (now : Int) (role text : Value) :
    (memory.addTurn now role text).GrowsByTurns where
  chain := by
    rw [entries_addTurn]
    refine grows.chain.append (List.isChain_singleton _) fun earlier last later first => ?_
    obtain rfl := Option.some.inj first
    exact ⟨_, _, grows.latest earlier last, rfl⟩
  latest := by
    rw [entries_addTurn, List.getLast?_concat, turns_addTurn]
    rintro _ ⟨⟩
    rfl

theorem clearHistory (memory : Memory) : memory.clearHistory.GrowsByTurns where
  chain := List.isChain_nil
  latest := nofun

end GrowsByTurns

end Memory

end RobotRules
