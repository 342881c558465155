import RobotRules.Capability.Registry
import RobotRules.Language

/-! What the robot reports of its own accord: that it heard its name, and what
it heard. Reports are noted in memory, where rules find them. -/

namespace RobotRules

namespace Memory

/-- The parameter that holds the state of the interaction. -/
def interactionState : Value := .text "interactionState"

/-- The parameter that holds what was heard last. -/
def lastHeard : Value := .text "lastAsrResult"

/-- The parameter that holds the language of what was heard last. -/
def lastLanguage : Value := .text "asrLanguage"

end Memory

namespace Event

open World

/-- The name under which events look for speech recognition. -/
def recognizer : Text := "ASR"

/-- Does an operation of the recognizer, if it has one of this name. -/
def askRecognizer? (operation : Text) (arguments : List Value) :
    Action (Option Value) := do
  match ((← get).capability? recognizer).bind (Capability.operation? operation) with
  | some operation => return some (← operation.run recognizer arguments)
  | none => return none

/-- The robot heard its name: whether it pays heed, which it does not while it
listens anyway. -/
def wakeUp : Action Bool := do
  if ((← askRecognizer? "isListening" []).map Value.asBool) == some true then
    return false
  write Memory.interactionState (.text "Active")
  return true

/-- The robot heard a text in some language. It stops listening. -/
def hear (text language : Text) : Action Unit := do
  let _ ← askRecognizer? "setListeningState" [.boolean false]
  if !text.isEmpty then
    addLine "user" text
    write Memory.lastHeard (.text text)
    write Memory.lastLanguage (.text language)
    write Memory.interactionState (.text "asrReceived")
  tell .finishConversation

/-- The language of a text: the one reported, or else the one detected. -/
def languageOf (text : Text) (reported : Option Text)
    (detection : Language.Detection) : Text :=
  match reported with
  | some (c :: rest) => c :: rest
  | _ => Language.detect text Language.fallback detection

end Event

end RobotRules
