import RobotRules.Failure
import RobotRules.Log
import RobotRules.Pattern.Captures
import RobotRules.Value.Equality
import RobotRules.Value.Printed

/-! Evaluating expressions. What a call does is left to a host: it finds the
operation that a call names, and running the operation may change the host's
state and may fail. A failure keeps the state that was reached. -/

namespace RobotRules

/-- An action on a state that gives a result or fails. -/
abbrev Act (σ : Type) := EStateM Failure σ

/-- What rules are evaluated in: the operations they can call, and a log. -/
structure Host (σ : Type) where
  /-- The operation that `receiver.method` names at the moment. -/
  resolve : (receiver method : Text) → σ → Except Failure (List Value → Act σ Value)
  /-- The state with one more entry in its log. -/
  record : LogEntry → σ → σ

namespace Expr

/-- Gives the result of a call. It is written down for those who look on, whether anyone
does or not, and so has to be one that can be written. -/
def described {σ : Type} (result : Value) : Act σ Value :=
  if result.isWritable then return result else throw .integerTooLong

variable {σ : Type} (host : Host σ)

mutual
/-- The value of an expression. Operands and arguments are evaluated from left
to right, all of them in every case. The operation of a call is looked up
before its arguments are evaluated. -/
def evaluate : Expr → Act σ Value
  | .literal value => return .text value
  | .equals left right => do
    let left ← evaluate left
    let right ← evaluate right
    return .boolean (left.equal right)
  | .and left right => do
    let left ← evaluate left
    let right ← evaluate right
    return .boolean (left.asBool && right.asBool)
  | .or left right => do
    let left ← evaluate left
    let right ← evaluate right
    return .boolean (left.asBool || right.asBool)
  | .matching pattern text => do
    let value ← evaluate text
    return .boolean (Pattern.matchesText pattern value.asText)
  | .capture pattern text index => do
    let value ← evaluate text
    return match Pattern.extract? pattern value.asText index with
      | some captured => .text captured
      | none => .absent
  | .call receiver method arguments => do
    match host.resolve receiver method (← get) with
    | .error failure => throw failure
    | .ok operation => described (← operation (← evaluateAll arguments))
  | .foreign value => throw (.notEvaluable value.typeName)

def evaluateAll : List Expr → Act σ (List Value)
  | [] => return []
  | expr :: rest => do
    let value ← evaluate expr
    let values ← evaluateAll rest
    return value :: values
end

/-- Whether a condition holds: only the boolean truth makes it hold. -/
def holds (condition : Expr) : Act σ Bool := do
  return (← condition.evaluate host).asBool

/-- Evaluates expressions for what they do. -/
def runAll : List Expr → Act σ Unit
  | [] => return ()
  | expr :: rest => do
    let _ ← expr.evaluate host
    runAll rest

end Expr

end RobotRules
