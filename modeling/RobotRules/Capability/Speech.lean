import RobotRules.World

/-! Speaking and listening. -/

namespace RobotRules.Speech

open World

/-- The estimated time for speaking a text, in milliseconds: a tenth of a second
for each character and three tenths at the end. -/
def estimate (text : Text) : Nat := text.length * 100 + 300

/-- The product of a time in milliseconds and a scale, if the scale is more than
nothing. -/
def scaled? (milliseconds : Nat) : Json → Except Failure (Option Double)
  | .integer scale =>
    if scale ≤ 0 then .ok none
    else some <$> Failure.orOverflow (Double.ofInt? (milliseconds * scale))
  | .boolean true => .ok (some (.ofRatio false milliseconds 1))
  | .boolean false => .ok none
  | .float scale =>
    if scale.negative || scale.isZero then .ok none
    else .ok (some ((Double.ofRatio false milliseconds 1).mul scale))
  | .nan => .ok none
  | _ => .error .wrongType

/-- The length of a pause in microseconds, if there is to be one. The system refuses to make
pauses that are too long for it. -/
def pauseLength? (milliseconds : Nat) (scale : Json) :
    Except Failure (Option Int) := do
  let some product ← scaled? milliseconds scale | return none
  let seconds := product.toSeconds
  if seconds.isWaitable then some <$> Failure.orOverflow seconds.toMicroseconds?
  else throw .overflow

/-- Pauses for a time, as the settings scale it. -/
def pause (milliseconds : Nat) : Action Unit := do
  match pauseLength? milliseconds (← get).config.robot.speechDelayScale with
  | .error failure => throw failure
  | .ok none => return ()
  | .ok (some time) =>
    modify fun world => { world with pauses := world.pauses ++ [time] }

/-- The longest pause that ends in time wherever it begins, in microseconds: the system's clock
counts from its start on, which is less than a century ago. -/
def longestPause : Int := Int.pow 2 62 / 1000

/-- Whether a pause can be made, if there is to be one at all. -/
def canPause (milliseconds : Nat) (scale : Json) : Bool :=
  match pauseLength? milliseconds scale with
  | .ok length => length.all fun time => time ≤ longestPause
  | .error _ => false

/-- Three centuries are too long to wait. -/
example : pauseLength? 100 (.integer (10 ^ 11)) = .error .overflow := by rfl

/-- Speaks a text and waits until it is spoken. A conversation that is under way
is ended first. Blank texts and other values are passed over. -/
def speak (text : Value) : Action Value := do
  let .text characters := text | return .absent
  if Text.isBlank characters then return .absent
  addLine "assistant" characters
  tell .finishConversation
  pause 100
  tell (.speak characters)
  pause (estimate characters)
  return .absent

/-- Sets whether the robot listens; anything but truth means that it does not. -/
def setListening (receiver : Text) (listening : Value) : Action Value := do
  setCapability receiver (.recognition listening.asBool)
  modify fun world =>
    { world with robot := { world.robot with listening := listening.asBool } }
  return .absent

/-- Opens the microphone. -/
def listen (receiver : Text) : Action Value := do
  let _ ← setListening receiver (.boolean true)
  tell .finishConversation
  tell (.askQuestion " ")
  return .absent

/-- Closes the microphone. -/
def stopListening (receiver : Text) : Action Value := do
  let _ ← setListening receiver (.boolean false)
  tell .finishConversation
  return .absent

/-- Whether the microphone is open. -/
def isListening (receiver : Text) : Action Value := do
  match (← get).capability? receiver with
  | some (.recognition listening) => return .boolean listening
  | _ => return .boolean false

end RobotRules.Speech
