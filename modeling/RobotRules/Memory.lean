import RobotRules.Value.Named

/-! Memory holds the parameters of the robot's state. Each write is kept with
its time. Forgetting the history leaves the current values; a reset drops
both, but times never run backwards, not even over a reset. -/

namespace RobotRules

/-- A value and the time, in milliseconds, at which it was written. -/
structure Entry where
  value : Value
  timestamp : Int

structure Memory where
  /-- The latest value of each parameter. -/
  current : Named Value
  /-- All writes to each parameter since the history was last forgotten. -/
  history : Named (List Entry)
  /-- The time of the latest write of all. -/
  latest : Int

namespace Memory

def empty : Memory := ⟨[], [], 0⟩

/-- The parameter that holds the conversation. -/
def conversation : Value := .text "conversationHistory"

/-- Writes a value while the clock shows `now`. A clock that was set back is
overruled by the time of the latest write. -/
def write (now : Int) (name value : Value) (memory : Memory) : Memory :=
  let time := max now memory.latest
  let entries := (memory.history.find? name).getD []
  { current := memory.current.insert name value
    history := memory.history.insert name (entries ++ [⟨value, time⟩])
    latest := time }

/-- The latest value; absent if there is none. -/
def read (name : Value) (memory : Memory) : Value :=
  (memory.current.find? name).getD .absent

/-- All writes to a parameter that are remembered. -/
def entries (name : Value) (memory : Memory) : List Entry :=
  (memory.history.find? name).getD []

/-- Whether an entry lies in a window of time; both bounds belong to it, and a
missing bound bounds nothing. -/
def within (start finish : Option Int) (entry : Entry) : Bool :=
  start.all (· ≤ entry.timestamp) && finish.all (entry.timestamp ≤ ·)

/-- The writes to a parameter in a window of time. -/
def window (name : Value) (start finish : Option Int) (memory : Memory) :
    List Entry :=
  (memory.entries name).filter (within start finish)

/-- The writes to every parameter in a window of time. -/
def windows (start finish : Option Int) (memory : Memory) : Named (List Entry) :=
  memory.history.map fun (name, entries) => (name, entries.filter (within start finish))

/-- The value before the latest one; absent with fewer than two writes. -/
def previous (name : Value) (memory : Memory) : Value :=
  match (memory.entries name).reverse with
  | _ :: entry :: _ => entry.value
  | _ => .absent

/-- Whether any write to a parameter is remembered. -/
def hasHistory (name : Value) (memory : Memory) : Bool :=
  (memory.history.find? name).isSome

def clearHistory (memory : Memory) : Memory := { memory with history := [] }

def reset (memory : Memory) : Memory := { memory with current := [], history := [] }

/-- The turns of the conversation. -/
def turns (memory : Memory) : List Value :=
  match memory.read conversation with
  | .list turns => turns
  | _ => []

/-- A turn of the conversation. -/
def turn (role text : Value) : Value := .tuple [role, text]

/-- Adds a turn to the conversation while the clock shows `now`. -/
def addTurn (now : Int) (role text : Value) (memory : Memory) : Memory :=
  memory.write now conversation (.list (memory.turns ++ [turn role text]))

end Memory

end RobotRules
