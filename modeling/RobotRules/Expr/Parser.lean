import RobotRules.Expr.Basic
import RobotRules.Nesting.Operator
import RobotRules.Nesting.Segments
import RobotRules.Number.Integer

/-! Reading expressions. From the loosest to the tightest: `||`, `&&`, `==`,
then literals, built-in functions and calls. Disjunction and conjunction are
cut at their rightmost operator, so that chains lean to the left; equality does
not chain. -/

namespace RobotRules

/-- Why a text is no expression, or a pair of texts no rule. -/
inductive ParseError where
  | empty
  | unsupported (text : Text)
  | invalidCall (text : Text)
  | unbalancedCall (text : Text)
  | chainedEquality (text : Text)
  | matchingArguments
  | captureArguments
  | patternNotLiteral (builtin argument : Text)
  | noActions
deriving DecidableEq, Repr

def ParseError.message : ParseError → Text
  | .empty => "Empty expression"
  | .unsupported text => "Unsupported expression: " ++ text
  | .invalidCall text => "Invalid function call: " ++ text
  | .unbalancedCall text => "Unbalanced parentheses in function call: " ++ text
  | .chainedEquality text => "Chained '==' is not supported: " ++ text
  | .matchingArguments =>
    matchingName ++ " requires exactly 2 arguments: pattern, text"
  | .captureArguments =>
    captureName ++ " requires 2 or 3 arguments: pattern, text, [paramIndex]"
  | .patternNotLiteral builtin argument =>
    builtin ++ " pattern must be a string literal: " ++ argument
  | .noActions => "Rule has no actions"

namespace Expr

/-- What a text between two quotes holds, if these are its only quotes. -/
def literalBody? : Text → Option Text
  | '"' :: rest =>
    let body := rest.dropLast
    if rest.getLast? == some '"' && !body.contains '"' then some body else none
  | _ => none

/-- What stands between the parentheses of a text that is one call of the
built-in function and nothing else. -/
def builtinBody? (name text : Text) : Option Text :=
  match Text.after? name text with
  | some ('(' :: rest) =>
    if rest.getLast? == some ')' && Nesting.closesAtEnd ('(' :: rest) then
      some rest.dropLast
    else none
  | _ => none

/-! Each of the following steps is given the reader for the parts of the text
it reads. -/

section Steps

variable (read : Text → Except ParseError Expr)

/-- The pattern of a built-in function. -/
def readPattern (builtin argument : Text) : Except ParseError Text :=
  match read argument with
  | .ok (.literal pattern) => .ok pattern
  | .ok _ => .error (.patternNotLiteral builtin argument)
  | .error error => .error error

/-- The built-in function that matches a pattern. -/
def readMatching (body : Text) : Except ParseError Expr :=
  match Nesting.splitArguments body with
  | [pattern, text] => do
    let pattern ← readPattern read matchingName pattern
    return .matching pattern (← read text)
  | _ => .error .matchingArguments

/-- The index of a capture; a text that spells no integer stands for zero. -/
def readIndex (text : Text) : Int := (Number.readInteger? text).getD 0

/-- The built-in function that captures a part of a text. -/
def readCapture (body : Text) : Except ParseError Expr :=
  match Nesting.splitArguments body with
  | [pattern, text] => do
    let pattern ← readPattern read captureName pattern
    return .capture pattern (← read text) 0
  | [pattern, text, index] => do
    let pattern ← readPattern read captureName pattern
    return .capture pattern (← read text) (readIndex index)
  | _ => .error .captureArguments

/-- Whether a text can name a receiver or an operation. -/
def isIdentifier (text : Text) : Bool :=
  !text.isEmpty && text.all Character.isIdentifier

/-- The parts of a call: what stands before the first point, between it and the
next parenthesis, and from that parenthesis on. -/
def callParts? (text : Text) : Option (Text × Text × Text) :=
  match text.takeWhile (· != '.'), text.dropWhile (· != '.') with
  | [], _ | _, [] => none
  | receiver, _ :: afterPoint =>
    match afterPoint.dropWhile (· != '(') with
    | [] => none
    | fromParenthesis =>
      some (Text.trim receiver, Text.trim (afterPoint.takeWhile (· != '(')),
        fromParenthesis)

/-- A call of an operation. -/
def readCall (text : Text) : Except ParseError Expr :=
  match callParts? text with
  | none => .error (.invalidCall text)
  | some (receiver, method, fromParenthesis) =>
    if !isIdentifier receiver || !isIdentifier method then
      .error (.invalidCall text)
    else if !Nesting.closesAtEnd fromParenthesis then
      .error (.unbalancedCall text)
    else do
      let arguments := Nesting.splitArguments fromParenthesis.tail.dropLast
      return .call receiver method (← arguments.mapM read)

/-- An expression with an operator, cut into its operands. -/
def readOperands (make : Expr → Expr → Expr) (text : Text) (span : Span) :
    Except ParseError Expr := do
  let (left, right) := Operator.around text span
  let left ← read left
  return make left (← read right)

/-- An expression that is no literal and no built-in function. -/
def readCompound (text : Text) : Except ParseError Expr :=
  match Operator.disjunction.last? text, Operator.conjunction.last? text with
  | some span, _ => readOperands read .or text span
  | none, some span => readOperands read .and text span
  | none, none =>
    match Operator.equality.occurrences text with
    | [span] => readOperands read .equals text span
    | _ :: _ => .error (.chainedEquality text)
    | [] =>
      if text.contains '.' && text.contains '(' then readCall read text
      else .error (.unsupported text)

/-- A trimmed expression. -/
def readTrimmed (text : Text) : Except ParseError Expr :=
  if text.isEmpty then .error .empty
  else
    match literalBody? text, builtinBody? matchingName text,
        builtinBody? captureName text with
    | some value, _, _ => .ok (.literal value)
    | none, some body, _ => readMatching read body
    | none, none, some body => readCapture read body
    | none, none, none => readCompound read text

end Steps

/-- Reads an expression that is nested at most `depth` levels deep. -/
def parseWithin : (depth : Nat) → Text → Except ParseError Expr
  | 0, _ => .error .empty
  | depth + 1, text => readTrimmed (parseWithin depth) (Text.trim text)

/-- Reads an expression. Each part of a text is shorter than the text, so the
nesting cannot be deeper than the text is long. -/
def parse (text : Text) : Except ParseError Expr := parseWithin (text.length + 1) text

example : parse "\"a\" == \"b\" or A.b()" =
    .ok (.or (.equals (.literal "a") (.literal "b")) (.call "A" "b" [])) := by
  rfl

end Expr

end RobotRules
