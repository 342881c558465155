import Mathlib.Data.List.Basic
import RobotRules.Memory
import RobotRules.Proofs.Value.Names

/-! Memory as a log of writes. The log keeps every write of a session with the reading of
the clock at which it was made, and knows how many of the writes were made before the last
reset and before the history was last forgotten. What memory gives for a name is read off
the log, whatever was done in whatever order and however the clock ran. -/

namespace RobotRules.Memory

/-- A value that can name a parameter. -/
abbrev Name := { value : Value // value.isName = true }

/-- What can be done to memory; reading it changes nothing. A write goes with what the
clock shows. -/
inductive Change where
  | write (now : Int) (name : Name) (value : Value)
  | addTurn (now : Int) (role text : Value)
  | clearHistory
  | reset

/-- Memory after a change. -/
def apply (memory : Memory) : Change → Memory
  | .write now name value => memory.write now name.val value
  | .addTurn now role text => memory.addTurn now role text
  | .clearHistory => memory.clearHistory
  | .reset => memory.reset

/-- Memory after a run of changes to an empty one. -/
def run (changes : List Change) : Memory := changes.foldl apply empty

/-- The name of the parameter that holds the conversation. -/
def conversationName : Name := ⟨conversation, rfl⟩

/-- One write. -/
structure Write where
  name : Name
  value : Value
  /-- What the clock showed. -/
  reading : Int

/-- The writes of a session, the oldest first, and how many of them were made before the
last reset and before the history was last forgotten. -/
structure WriteLog where
  writes : List Write
  beforeReset : Nat
  beforeForgetting : Nat

namespace WriteLog

def empty : WriteLog := ⟨[], 0, 0⟩

/-- The latest of the clock readings of the first `count` writes, and of the time 0. -/
def latest (log : WriteLog) (count : Nat) : Int :=
  ((log.writes.take count).map Write.reading).foldl max 0

/-- All writes of the session. The time of each is the latest reading up to it, its own
included. -/
def stamped (log : WriteLog) : List (Name × Entry) :=
  log.writes.mapIdx fun index write =>
    (write.name, ⟨write.value, log.latest (index + 1)⟩)

/-- The writes to a name behind the first `count` writes. -/
def writesTo (name : Name) (count : Nat) (log : WriteLog) : List Entry :=
  ((log.stamped.drop count).filter fun write => write.1.val.same name.val).map Prod.snd

/-- The value of the last write to a name since the last reset. -/
def value (name : Name) (log : WriteLog) : Value :=
  ((log.writesTo name log.beforeReset).getLast?.map Entry.value).getD .absent

/-- The writes to a name since the history was last forgotten or memory reset. -/
def history (name : Name) (log : WriteLog) : List Entry :=
  log.writesTo name log.beforeForgetting

/-- The value before the last in the history of a name. -/
def previous (name : Name) (log : WriteLog) : Value :=
  ((log.history name).dropLast.getLast?.map Entry.value).getD .absent

/-- The log with one more write. -/
def add (write : Write) (log : WriteLog) : WriteLog :=
  { log with writes := log.writes ++ [write] }

/-- The turns of the conversation. -/
def turns (log : WriteLog) : List Value :=
  match log.value conversationName with
  | .list turns => turns
  | _ => []

/-- The log after a change. A turn of the conversation is a write of all turns so far. -/
def apply (log : WriteLog) : Change → WriteLog
  | .write now name value => log.add ⟨name, value, now⟩
  | .addTurn now role text =>
    log.add ⟨conversationName, .list (log.turns ++ [turn role text]), now⟩
  | .clearHistory => { log with beforeForgetting := log.writes.length }
  | .reset =>
    { log with
      beforeReset := log.writes.length
      beforeForgetting := log.writes.length }

/-- The log of a run of changes. -/
def ofRun (changes : List Change) : WriteLog := changes.foldl apply empty

section Add

variable {log : WriteLog} {write : Write}

theorem latest_add_of_le {count : Nat} (bound : count ≤ log.writes.length) :
    (log.add write).latest count = log.latest count := by
  rw [latest, latest, add, List.take_append_of_le_length bound]

/-- A clock that was set back is overruled by the readings before. -/
theorem latest_add : (log.add write).latest (log.writes.length + 1) =
    max write.reading (log.latest log.writes.length) := by
  have whole : (log.writes ++ [write]).take (log.writes.length + 1) = log.writes ++ [write] :=
    List.take_of_length_le (by simp)
  rw [latest, latest, add, whole, List.take_length, List.map_append, List.foldl_append,
    List.map_singleton, List.foldl_cons, List.foldl_nil, max_comm]

theorem stamped_length (log : WriteLog) : log.stamped.length = log.writes.length := by
  rw [stamped, List.length_mapIdx]

/-- A write leaves the earlier ones and their times alone. -/
theorem stamped_add : (log.add write).stamped = log.stamped ++
    [(write.name, ⟨write.value, max write.reading (log.latest log.writes.length)⟩)] := by
  have earlier : ∀ index (inside : index < log.writes.length),
      (log.add write).latest (index + 1) = log.latest (index + 1) :=
    fun index inside => latest_add_of_le inside
  have step : (log.add write).stamped = log.writes.mapIdx
      (fun index write' => (write'.name, ⟨write'.value, (log.add write).latest (index + 1)⟩)) ++
      [(write.name, ⟨write.value, (log.add write).latest (log.writes.length + 1)⟩)] :=
    List.mapIdx_concat
  rw [step, latest_add]
  congr 1
  refine List.ext_getElem (by simp [stamped]) fun index inside _ => ?_
  rw [List.length_mapIdx] at inside
  simp [stamped, earlier index inside]

/-- A write is seen under its own name and under no other. -/
theorem writesTo_add {count : Nat} (bound : count ≤ log.writes.length) (name : Name) :
    (log.add write).writesTo name count = log.writesTo name count ++
      if write.name.val.same name.val = true
      then [⟨write.value, max write.reading (log.latest log.writes.length)⟩] else [] := by
  rw [writesTo, stamped_add,
    List.drop_append_of_le_length (by rwa [stamped_length]), List.filter_append,
    List.map_append, writesTo]
  congr 1
  split_ifs with same <;> simp [same]

end Add

/-- Names that are the same have the same writes. -/
theorem writesTo_congr {name other : Name} (same : name.val.same other.val = true)
    (count : Nat) (log : WriteLog) : log.writesTo name count = log.writesTo other count := by
  have plain := (Value.same_iff_plain_eq name.property other.property).mp same
  have alike : ∀ write : Name × Entry,
      write.1.val.same name.val = write.1.val.same other.val := fun write => by
    rw [Bool.eq_iff_iff, Value.same_iff_plain_eq write.1.property name.property,
      Value.same_iff_plain_eq write.1.property other.property, plain]
  simp only [writesTo, alike]

/-- There is nothing behind all writes. -/
theorem writesTo_all (name : Name) (log : WriteLog) :
    log.writesTo name log.writes.length = [] := by
  rw [writesTo, ← stamped_length, List.drop_length, List.filter_nil, List.map_nil]

/-- The later writes to a name are the last of them. -/
theorem writesTo_suffix {early late : Nat} (order : early ≤ late) (name : Name)
    (log : WriteLog) : log.writesTo name late <:+ log.writesTo name early := by
  have later : log.stamped.drop late <:+ log.stamped.drop early := by
    rw [← Nat.add_sub_cancel' order, ← List.drop_drop]
    exact List.drop_suffix _ _
  exact (later.filter _).map _

theorem le_foldl_max (readings : List Int) (least : Int) :
    least ≤ readings.foldl max least := by
  induction readings generalizing least with
  | nil => exact le_refl least
  | cons reading rest induction =>
      exact (le_max_left least reading).trans (induction (max least reading))

theorem latest_mono {early late : Nat} (order : early ≤ late) (log : WriteLog) :
    log.latest early ≤ log.latest late := by
  have split : log.writes.take late =
      log.writes.take early ++ (log.writes.drop early).take (late - early) := by
    rw [← List.take_add, Nat.add_sub_cancel' order]
  rw [latest, latest, split, List.map_append, List.foldl_append]
  exact le_foldl_max _ _

/-- Times never run backwards. -/
theorem pairwise_timestamp (log : WriteLog) :
    (log.stamped.map fun write => write.2.timestamp).Pairwise (· ≤ ·) := by
  rw [List.pairwise_iff_getElem]
  intro early late early_inside late_inside order
  simpa [stamped] using log.latest_mono (Nat.add_le_add_right order.le 1)

end WriteLog

/-- Memory and a log tell the same. -/
structure Refines (memory : Memory) (log : WriteLog) : Prop where
  latest : memory.latest = log.latest log.writes.length
  reset_bound : log.beforeReset ≤ log.beforeForgetting
  forgetting_bound : log.beforeForgetting ≤ log.writes.length
  current_names : memory.current.UnderNames
  history_names : memory.history.UnderNames
  current : ∀ name : Name, memory.current.find? name.val =
    (log.writesTo name log.beforeReset).getLast?.map Entry.value
  history : ∀ name : Name, memory.history.find? name.val =
    if log.history name = [] then none else some (log.history name)

namespace Refines

variable {memory : Memory} {log : WriteLog}

theorem empty : Refines Memory.empty WriteLog.empty where
  latest := rfl
  reset_bound := le_refl 0
  forgetting_bound := le_refl 0
  current_names := by simp [Named.UnderNames, Memory.empty]
  history_names := by simp [Named.UnderNames, Memory.empty]
  current _ := rfl
  history _ := rfl

theorem read_eq (refines : Refines memory log) (name : Name) :
    memory.read name.val = log.value name := by
  rw [read, refines.current, WriteLog.value]

theorem entries_eq (refines : Refines memory log) (name : Name) :
    memory.entries name.val = log.history name := by
  rw [entries, refines.history]
  split_ifs with none
  · rw [none, Option.getD_none]
  · rw [Option.getD_some]

theorem turns_eq (refines : Refines memory log) : memory.turns = log.turns := by
  rw [turns, WriteLog.turns, ← refines.read_eq conversationName]
  rfl

theorem write (refines : Refines memory log) (now : Int) (name : Name) (value : Value) :
    Refines (memory.write now name.val value) (log.add ⟨name, value, now⟩) where
  latest := by
    rw [show (log.add ⟨name, value, now⟩).writes.length = log.writes.length + 1 from
        List.length_append, WriteLog.latest_add, ← refines.latest]
    rfl
  reset_bound := refines.reset_bound
  forgetting_bound := by
    rw [WriteLog.add, List.length_append]
    exact refines.forgetting_bound.trans (Nat.le_add_right _ _)
  current_names := refines.current_names.insert name.property
  history_names := refines.history_names.insert name.property
  current other := by
    rw [Memory.write, Named.find?_insert name.property other.property,
      show (log.add ⟨name, value, now⟩).beforeReset = log.beforeReset from rfl,
      WriteLog.writesTo_add (refines.reset_bound.trans refines.forgetting_bound)]
    split_ifs with same
    · rw [List.getLast?_concat, Option.map_some]
    · rw [List.append_nil, refines.current]
  history other := by
    have entries : (memory.history.find? name.val).getD [] = log.history name :=
      refines.entries_eq name
    rw [Memory.write, Named.find?_insert name.property other.property,
      WriteLog.history,
      show (log.add ⟨name, value, now⟩).beforeForgetting = log.beforeForgetting from rfl,
      WriteLog.writesTo_add refines.forgetting_bound, entries, refines.latest]
    by_cases same : name.val.same other.val = true
    · rw [if_pos same, if_pos same, if_neg (by simp), WriteLog.history,
        WriteLog.writesTo_congr same]
    · rw [if_neg same, if_neg same, List.append_nil, refines.history, WriteLog.history]

theorem clearHistory (refines : Refines memory log) :
    Refines memory.clearHistory (log.apply .clearHistory) where
  latest := refines.latest
  reset_bound := refines.reset_bound.trans refines.forgetting_bound
  forgetting_bound := le_refl _
  current_names := refines.current_names
  history_names := by simp [Named.UnderNames, Memory.clearHistory]
  current := refines.current
  history name := (if_pos (WriteLog.writesTo_all name log)).symm

theorem reset (refines : Refines memory log) :
    Refines memory.reset (log.apply .reset) where
  latest := refines.latest
  reset_bound := le_refl _
  forgetting_bound := le_refl _
  current_names := by simp [Named.UnderNames, Memory.reset]
  history_names := by simp [Named.UnderNames, Memory.reset]
  current name := by
    have none : (log.apply .reset).writesTo name (log.apply .reset).beforeReset = [] :=
      WriteLog.writesTo_all name log
    rw [none]
    rfl
  history name := (if_pos (WriteLog.writesTo_all name log)).symm

/-- One change. -/
theorem apply (refines : Refines memory log) (change : Change) :
    Refines (memory.apply change) (log.apply change) := by
  cases change with
  | write now name value => exact refines.write now name value
  | addTurn now role text =>
      rw [Memory.apply, addTurn, WriteLog.apply, ← refines.turns_eq]
      exact refines.write now conversationName _
  | clearHistory => exact refines.clearHistory
  | reset => exact refines.reset

/-- A run of changes. -/
theorem foldl (refines : Refines memory log) (changes : List Change) :
    Refines (changes.foldl Memory.apply memory) (changes.foldl WriteLog.apply log) := by
  induction changes generalizing memory log with
  | nil => exact refines
  | cons change rest induction => exact induction (refines.apply change)

theorem hasHistory_iff (refines : Refines memory log) (name : Name) :
    memory.hasHistory name.val = true ↔ log.history name ≠ [] := by
  rw [hasHistory, refines.history]
  split_ifs with forgotten <;> simp [forgotten]

theorem window_eq (refines : Refines memory log) (name : Name) :
    memory.window name.val none none = log.history name := by
  rw [window, refines.entries_eq]
  exact List.filter_eq_self.mpr fun _ _ => rfl

theorem previous_eq (refines : Refines memory log) (name : Name) :
    memory.previous name.val = log.previous name := by
  rw [previous, refines.entries_eq, WriteLog.previous,
    ← List.reverse_reverse (log.history name), List.dropLast_reverse, List.getLast?_reverse,
    List.reverse_reverse]
  match (log.history name).reverse with
  | [] | [_] | _ :: _ :: _ => rfl

/-- The last entry of a history is the latest value. -/
theorem value_of_getLast? (refines : Refines memory log) {name : Name} {entry : Entry}
    (last : (log.history name).getLast? = some entry) :
    entry.value = memory.read name.val := by
  obtain ⟨front, whole⟩ := log.writesTo_suffix refines.reset_bound name
  have last_of_all : (log.writesTo name log.beforeReset).getLast? = some entry := by
    rw [← whole, List.getLast?_append]
    exact congrArg (Option.or · _) last
  rw [refines.read_eq, WriteLog.value, last_of_all, Option.map_some, Option.getD_some]

end Refines

theorem refines_run (changes : List Change) : Refines (run changes) (WriteLog.ofRun changes) :=
  Refines.empty.foldl changes

/-- Memory tells of every name what the log of the session tells. Its latest value is the
one of the last write since the last reset. Its history are all writes since it was last
forgotten, each with the latest reading of the clock up to that write, and so in the order
of their times. A history that is not empty ends in the latest value. -/
theorem run_refines_writeLog (changes : List Change) (name : Name) :
    let memory := run changes
    let log := WriteLog.ofRun changes
    memory.read name.val = log.value name ∧
      memory.window name.val none none = log.history name ∧
      (memory.hasHistory name.val = true ↔ log.history name ≠ []) ∧
      memory.previous name.val = log.previous name ∧
      memory.latest = log.latest log.writes.length ∧
      (log.stamped.map fun write => write.2.timestamp).Pairwise (· ≤ ·) ∧
      ∀ entry, (memory.window name.val none none).getLast? = some entry →
        entry.value = memory.read name.val := by
  have refines := refines_run changes
  refine ⟨refines.read_eq name, refines.window_eq name, refines.hasHistory_iff name,
    refines.previous_eq name, refines.latest, WriteLog.pairwise_timestamp _,
    fun entry last => ?_⟩
  rw [refines.window_eq] at last
  exact refines.value_of_getLast? last

end RobotRules.Memory
