import RobotRules.World

/-! Answering questions with the chat service. -/

namespace RobotRules.Assistant

open World

def channel : Text := "rulebot.skills.assistant"

/-- What is said for want of an answer. -/
def unavailable : Text := "Sorry, the AI service is currently unavailable."

/-- What is said for want of a question. -/
def noQuestion : Text := "Sorry, I didn't catch a question."

/-- The turns before a question, which may itself have been noted as the last
turn. -/
def turnsBefore (prompt : Text) (turns : List Value) : List Value :=
  match turns.getLast? with
  | some last =>
    if last.same (Memory.turn (.text "user") (.text prompt)) then turns.dropLast
    else turns
  | none => turns

/-- Asks the chat service and notes the request. -/
def complete (prompt : Text) (turns : List Value) : Action Text := do
  let world ← get
  let client := Chat.Client.ofConfig world.config.assistant
  let (answer, request, replies) := Chat.ask client prompt turns world.replies
  set { world with
    replies := replies
    requests := world.requests ++ request.toList }
  match answer with
  | .ok text => return text
  | .error failure => throw failure

/-- The answer to a question. If the service has none, an apology. -/
def ask (prompt : Value) : Action Value := do
  let .text question := prompt
    | do
      reportError channel "Prompt cannot be empty"
      return .text noQuestion
  if Text.isBlank question then
    reportError channel "Prompt cannot be empty"
    return .text noQuestion
  let turns := turnsBefore question (← get).memory.turns
  match ← attempt (complete question turns) with
  | .ok answer => return .text answer
  | .error (.chat error) =>
    warn channel ("Failed to get response from chat service: " ++ error.message)
    return .text unavailable
  | .error failure => throw failure

end RobotRules.Assistant
