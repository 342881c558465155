import RobotRules.Proofs.Memory.Conversation

/-! Memories that tell the same, about some parameters or about all. The order in which parameters
were first written cannot be asked for, so it does not matter. Whatever is done to two memories
that tell the same, they do so afterwards; and writes to different parameters can change
places. -/

namespace RobotRules

namespace Named

variable {α : Type} {named other : Named α} {name name' : Value}

/-- The same things are filed under the same names, in whatever order. -/
def Alike (named other : Named α) : Prop :=
  ∀ name : Value, name.isName = true → named.find? name = other.find? name

theorem Alike.insert (alike : Alike named other) (isName : name.isName = true) (thing : α) :
    Alike (named.insert name thing) (other.insert name thing) := by
  intro asked isAsked
  rw [find?_insert isName isAsked, find?_insert isName isAsked, alike asked isAsked]

/-- Things that are filed under different texts can be filed in any order. -/
theorem alike_insert_insert {left right : Text} (different : left ≠ right) (thing thing' : α)
    (named : Named α) :
    Alike ((named.insert (.text left) thing).insert (.text right) thing')
      ((named.insert (.text right) thing').insert (.text left) thing) := by
  intro asked isAsked
  have either : ∀ {text : Text}, (Value.text text).same asked = true → asked = .text text :=
    Value.text_same_iff.mp
  rw [find?_insert rfl isAsked, find?_insert rfl isAsked, find?_insert rfl isAsked,
    find?_insert rfl isAsked]
  split_ifs with isRight isLeft
  · exact absurd (Value.text.inj ((either isLeft).symm.trans (either isRight))) different
  all_goals rfl

end Named

namespace Memory

/-- Writes values to parameters one after the other. -/
def writeAll (now : Int) (writes : List (Text × Value)) (memory : Memory) : Memory :=
  writes.foldl (fun memory entry => memory.write now (.text entry.1) entry.2) memory

theorem writeAll_append (now : Int) (writes others : List (Text × Value)) (memory : Memory) :
    memory.writeAll now (writes ++ others) = (memory.writeAll now writes).writeAll now others :=
  List.foldl_append

/-- Two memories hold the same values of some parameters. -/
def Shares (names : List Text) (memory other : Memory) : Prop :=
  ∀ name ∈ names, memory.read (.text name) = other.read (.text name)

namespace Shares

variable {names others : List Text} {memory other : Memory}

theorem refl (names : List Text) (memory : Memory) : Shares names memory memory := fun _ _ => rfl

theorem mono (shares : Shares names memory other) (within : others ⊆ names) :
    Shares others memory other := fun name member => shares name (within member)

/-- The same writes to both keep it so, at whatever times. -/
theorem writeAll (shares : Shares names memory other) (now now' : Int)
    (writes : List (Text × Value)) :
    Shares names (memory.writeAll now writes) (other.writeAll now' writes) := by
  induction writes generalizing memory other with
  | nil => exact shares
  | cons entry rest induction =>
      apply induction
      intro name member
      rw [read_write_text, read_write_text, shares name member]

/-- Writes to other parameters make no difference. -/
theorem writeAll_right (shares : Shares names memory other) (now : Int)
    {writes : List (Text × Value)} (apart : ∀ entry ∈ writes, entry.1 ∉ names) :
    Shares names memory (other.writeAll now writes) := by
  induction writes generalizing other with
  | nil => exact shares
  | cons entry rest induction =>
      apply induction _ fun later member => apart later (List.mem_cons_of_mem _ member)
      intro name member
      have different : entry.1 ≠ name := fun same => apart entry (by simp) (same ▸ member)
      rw [read_write_text, if_neg different, shares name member]

end Shares

/-- Two memories tell the same about every parameter, and count the time alike. -/
structure Agrees (memory other : Memory) : Prop where
  current : memory.current.Alike other.current
  history : memory.history.Alike other.history
  latest : memory.latest = other.latest

namespace Agrees

variable {memory other third : Memory} {name : Value}

theorem refl (memory : Memory) : memory.Agrees memory := ⟨fun _ _ => rfl, fun _ _ => rfl, rfl⟩

theorem trans (first : memory.Agrees other) (second : other.Agrees third) :
    memory.Agrees third where
  current name isName := (first.current name isName).trans (second.current name isName)
  history name isName := (first.history name isName).trans (second.history name isName)
  latest := first.latest.trans second.latest

/-! What memories that agree tell. -/

section Telling

variable (agrees : memory.Agrees other)

include agrees

theorem read_eq (isName : name.isName = true) : memory.read name = other.read name := by
  rw [read, read, agrees.current name isName]

theorem entries_eq (isName : name.isName = true) : memory.entries name = other.entries name := by
  rw [entries, entries, agrees.history name isName]

theorem previous_eq (isName : name.isName = true) :
    memory.previous name = other.previous name := by
  rw [previous, previous, agrees.entries_eq isName]

theorem turns_eq : memory.turns = other.turns := by
  rw [turns, turns, agrees.read_eq rfl]

/-! What can be done to them. -/

theorem write (isName : name.isName = true) (now : Int) (value : Value) :
    (memory.write now name value).Agrees (other.write now name value) where
  current := agrees.current.insert isName value
  history := by
    have entries := agrees.history name isName
    simp only [Memory.write, entries, agrees.latest]
    exact agrees.history.insert isName _
  latest := by simp only [Memory.write, agrees.latest]

theorem addTurn (now : Int) (role text : Value) :
    (memory.addTurn now role text).Agrees (other.addTurn now role text) := by
  rw [Memory.addTurn, Memory.addTurn, agrees.turns_eq]
  exact agrees.write rfl now _

theorem clearHistory : memory.clearHistory.Agrees other.clearHistory :=
  ⟨agrees.current, fun _ _ => rfl, agrees.latest⟩

theorem reset : memory.reset.Agrees other.reset := ⟨fun _ _ => rfl, fun _ _ => rfl, agrees.latest⟩

theorem writeAll (now : Int) (writes : List (Text × Value)) :
    (memory.writeAll now writes).Agrees (other.writeAll now writes) := by
  induction writes generalizing memory other with
  | nil => exact agrees
  | cons entry rest induction => exact induction (agrees.write rfl now entry.2)

end Telling

end Agrees

/-! Writes that change places. -/

theorem agrees_write_write {left right : Text} (different : left ≠ right) (now : Int)
    (value value' : Value) (memory : Memory) :
    ((memory.write now (.text left) value).write now (.text right) value').Agrees
      ((memory.write now (.text right) value').write now (.text left) value) where
  current := Named.alike_insert_insert different _ _ _
  history := by
    simp only [write, Named.find?_insert_text, if_neg different, if_neg different.symm,
      le_max_left, max_eq_right]
    exact Named.alike_insert_insert different _ _ _
  latest := rfl

theorem agrees_writeAll_write {name : Text} {writes : List (Text × Value)}
    (apart : ∀ entry ∈ writes, entry.1 ≠ name) (now : Int) (value : Value) (memory : Memory) :
    ((memory.write now (.text name) value).writeAll now writes).Agrees
      ((memory.writeAll now writes).write now (.text name) value) := by
  induction writes generalizing memory with
  | nil => exact .refl _
  | cons entry rest induction =>
      have swapped := agrees_write_write (apart entry (by simp)).symm now value entry.2 memory
      have later := induction (fun other member => apart other (List.mem_cons_of_mem _ member))
        (memory.write now (.text entry.1) entry.2)
      exact (swapped.writeAll now rest).trans later

/-- Writes can change places with writes to other parameters. -/
theorem agrees_writeAll_comm {writes others : List (Text × Value)}
    (apart : ∀ entry ∈ writes, ∀ other ∈ others, other.1 ≠ entry.1) (now : Int)
    (memory : Memory) :
    (memory.writeAll now (writes ++ others)).Agrees (memory.writeAll now (others ++ writes)) := by
  rw [writeAll_append, writeAll_append]
  induction writes generalizing memory with
  | nil => exact .refl _
  | cons entry rest induction =>
      have restApart := fun member isMember => apart member (List.mem_cons_of_mem entry isMember)
      have later := induction restApart (memory.write now (.text entry.1) entry.2)
      have first := agrees_writeAll_write (apart entry (by simp)) now entry.2 memory
      exact later.trans (first.writeAll now rest)

end Memory

end RobotRules
