/-! Sets of code points given by their bounds. An ascending array of bounds
stands for the code points at or above an odd number of them: the first bound
opens a range, the second closes it, and so on. In a table of runs each bound has
a value for the code points from there up to the next bound. -/

namespace RobotRules.Character

/-- How many of the ascending bounds are at or below `code`, found by halving
the part `[low, high)` that is still in doubt. -/
def countBetween (bound : Nat → Nat) (code : Nat) : Nat → Nat → Nat → Nat
  | 0, low, _ => low
  | steps + 1, low, high =>
    if high ≤ low then low
    else
      let middle := (low + high) / 2
      if bound middle ≤ code then countBetween bound code steps (middle + 1) high
      else countBetween bound code steps low middle

/-- How many of the ascending bounds are at or below `code`. -/
def countAtMost (bounds : Array Nat) (code : Nat) : Nat :=
  countBetween (bounds.getD · 0) code (bounds.size.log2 + 1) 0 bounds.size

/-- Whether `code` is in the set that the bounds describe. -/
def inRanges (bounds : Array Nat) (code : Nat) : Bool :=
  countAtMost bounds code % 2 == 1

/-- The value that a table of runs has for `code`, and `before` in front of the
first run. -/
def valueAt {α : Type} (runs : Array (Nat × α)) (before : α) (code : Nat) : α :=
  let run (index : Nat) : Nat × α := runs.getD index (0, before)
  match countBetween (fun index => (run index).1) code (runs.size.log2 + 1) 0 runs.size with
  | 0 => before
  | index + 1 => (run index).2

/-- The range from 3 to 5 and the range from 8 on. -/
example : [2, 3, 5, 6, 8, 100].map (inRanges #[3, 6, 8]) =
    [false, true, true, false, true, true] := by decide

example : [2, 3, 7, 8].map (valueAt #[(3, 'a'), (8, 'b')] '-') = ['-', 'a', 'a', 'b'] := by
  decide

end RobotRules.Character
