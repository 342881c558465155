import RobotRules.Text.Basic

/-! Rule text is cut at marks that stand outside quotes and outside
parentheses. Reading from left to right, all that matters of the text before a
place is whether a quote is open there and how many parentheses are; the count
goes below zero where parentheses close that were never opened. -/

namespace RobotRules

/-- Where a place in a text stands among the quotes and parentheses before
it. -/
structure Nesting where
  quoted : Bool
  depth : Int
deriving DecidableEq, Repr

namespace Nesting

/-- Outside of everything, as at the start of a text. -/
def outside : Nesting := ⟨false, 0⟩

/-- Neither in quotes nor in parentheses. -/
def isTop (state : Nesting) : Bool := !state.quoted && state.depth == 0

/-- The characters that change the nesting; no other mark is one of them. -/
def isDelimiter (c : Char) : Bool := c == '"' || c == '(' || c == ')'

/-- The nesting behind one more character. -/
def next (state : Nesting) (c : Char) : Nesting :=
  if c = '"' then ⟨!state.quoted, state.depth⟩
  else if state.quoted then state
  else if c = '(' then ⟨false, state.depth + 1⟩
  else if c = ')' then ⟨false, state.depth - 1⟩
  else state

/-- The nesting behind a text. -/
def through (state : Nesting) (text : Text) : Nesting := text.foldl next state

@[simp] theorem through_nil (state : Nesting) : state.through [] = state := rfl

@[simp] theorem through_cons (state : Nesting) (c : Char) (rest : Text) :
    state.through (c :: rest) = (state.next c).through rest := rfl

theorem through_append (state : Nesting) (left right : Text) :
    state.through (left ++ right) = (state.through left).through right :=
  List.foldl_append

/-- A parenthesis in quotes does not count. -/
example : (outside.through "f(\")\"").depth = 1 := by decide

/-! Closing parentheses. -/

/-- How many characters come before the parenthesis that brings the count back
to zero. -/
def closingFrom? (state : Nesting) : Text → Option Nat
  | [] => none
  | c :: rest =>
    let behind := state.next c
    if !state.quoted && c == ')' && behind.depth == 0 then some 0
    else (closingFrom? behind rest).map (· + 1)

/-- The place of the parenthesis that closes the one at the front. -/
def closing? (text : Text) : Option Nat := closingFrom? outside text

/-- Whether the parenthesis at the front is closed by the last character. -/
def closesAtEnd (text : Text) : Bool := closing? text == some (text.length - 1)

example : closesAtEnd "(a(b)c)" = true ∧ closesAtEnd "(a)(b)" = false := by decide

end Nesting

end RobotRules
