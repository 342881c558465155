import RobotRules.Character.Letters
import RobotRules.Nesting.Basic
import RobotRules.Text.Case

/-! Finding operators at the top of a text. An operator is written as a symbol
or as a word. The word counts in any case, and only where it does not touch
another word character. -/

namespace RobotRules

/-- The two spellings of an operator, the word in upper case. -/
structure Operator where
  symbol : Text
  word : Text

/-- A stretch of a text. -/
structure Span where
  start : Nat
  length : Nat
deriving DecidableEq, Repr

namespace Operator

def disjunction : Operator := ⟨"||", "OR"⟩

def conjunction : Operator := ⟨"&&", "AND"⟩

/-- Equality has no word. -/
def equality : Operator := ⟨"==", []⟩

/-- Whether no word character stands at a boundary. -/
def isBoundary : Option Char → Bool
  | some c => !Character.isWord c
  | none => true

/-- The length of the operator at the front of `text`, zero if there is none.
The character before it is `before`. -/
def lengthAt (operator : Operator) (before : Option Char) (text : Text) : Nat :=
  if operator.symbol.isPrefixOf text then operator.symbol.length
  else if Text.upper (text.take operator.word.length) = operator.word &&
      isBoundary before && isBoundary (text.drop operator.word.length).head? then
    operator.word.length
  else 0

/-- The operators at the top from left to right. Each one found is passed over
before the next is looked for: `skip` of its characters are still ahead. -/
def occurrencesFrom (operator : Operator) (state : Nesting) (before : Option Char)
    (position skip : Nat) : Text → List Span
  | [] => []
  | c :: rest =>
    match skip with
    | skip + 1 => occurrencesFrom operator state (some c) (position + 1) skip rest
    | 0 =>
      let length :=
        if state.isTop && !Nesting.isDelimiter c then
          operator.lengthAt before (c :: rest)
        else 0
      match length with
      | 0 => occurrencesFrom operator (state.next c) (some c) (position + 1) 0 rest
      | tail + 1 =>
        ⟨position, tail + 1⟩ ::
          occurrencesFrom operator state (some c) (position + 1) tail rest

/-- The operators at the top of a text from left to right. -/
def occurrences (operator : Operator) (text : Text) : List Span :=
  operator.occurrencesFrom .outside none 0 0 text

/-- The rightmost operator at the top of a text. -/
def last? (operator : Operator) (text : Text) : Option Span :=
  (operator.occurrences text).getLast?

/-- The texts on both sides of a span. -/
def around (text : Text) (span : Span) : Text × Text :=
  (text.take span.start, text.drop (span.start + span.length))

example : disjunction.last? "a || (b || c)" = some ⟨2, 2⟩ := by decide
example : disjunction.last? "for or more" = some ⟨4, 2⟩ := by decide

/-! The upper case of a character can be longer than the character. So the end
of a text may read as the word of an operator and yet be shorter than it, and
then no character stands where the word should end. -/

/-- Whether the search comes to a place where the text reads as the word but
ends before it. -/
def overrunsFrom (operator : Operator) (state : Nesting) (before : Option Char)
    (skip : Nat) : Text → Bool
  | [] => false
  | c :: rest =>
    match skip with
    | skip + 1 => overrunsFrom operator state (some c) skip rest
    | 0 =>
      if state.isTop && !Nesting.isDelimiter c then
        if !operator.symbol.isPrefixOf (c :: rest) &&
            (c :: rest).length < operator.word.length &&
            Text.upper (c :: rest) = operator.word then
          true
        else
          match operator.lengthAt before (c :: rest) with
          | 0 => overrunsFrom operator (state.next c) (some c) 0 rest
          | tail + 1 => overrunsFrom operator state (some c) tail rest
      else overrunsFrom operator (state.next c) (some c) 0 rest

/-- Whether the search meets a word that runs over the end of the text. -/
def overruns (operator : Operator) (text : Text) : Bool :=
  operator.overrunsFrom .outside none 0 text

end Operator

end RobotRules
