import RobotRules.Config.Basic
import RobotRules.Json.Encoding
import RobotRules.Json.Reader
import RobotRules.Service
import RobotRules.Text.Base64
import RobotRules.Value.Named
import RobotRules.Value.Printed

/-! The chat service that answers questions. It is sent the question after the
turns of the conversation, and the first of its answers is taken. -/

namespace RobotRules

/-- A JSON value as it is sent: lists for tuples, and texts for the names in
dictionaries. -/
def Value.memberName? : Value → Except Failure Text
  | .text characters => .ok characters
  | .integer number => .ok (Number.writeInteger number)
  | .boolean true => .ok "true"
  | .boolean false => .ok "false"
  | .absent => .ok "null"
  | .float number => if number.isInfinite then .error .notInJson else .ok number.write
  | .nan _ => .error .notInJson
  | .list _ | .tuple _ | .dict _ => .error .wrongType

mutual
/-- The value as it arrives when it is sent as JSON. -/
def Value.sent? : Value → Except Failure Value
  | .list items | .tuple items => return .list (← sentItems? items)
  | .dict entries => return .dict (← sentMembers? [] entries)
  | .float number =>
    if number.isInfinite then .error .notInJson else .ok (.float number)
  | .nan _ => .error .notInJson
  | .integer number =>
    if Number.isWritable number then .ok (.integer number)
    else .error .integerTooLong
  | value => .ok value

def Value.sentItems? : List Value → Except Failure (List Value)
  | [] => return []
  | item :: rest => return (← item.sent?) :: (← sentItems? rest)

def Value.sentMembers? (members : Named Value) :
    List (Value × Value) → Except Failure (Named Value)
  | [] => return members
  | (name, value) :: rest => do
    let name ← name.memberName?
    let value ← value.sent?
    sentMembers? (members.insert (.text name) value) rest
end

/-- A dictionary with texts for names. -/
def Value.ofMembers (members : List (Text × Value)) : Value :=
  .dict (members.map fun (name, value) => (.text name, value))

namespace Chat

/-- How the service is asked. -/
structure Client where
  address : Value
  token : Value
  model : Value
  instructions : Text
  locate : Service.Locator

/-- What the service is told about itself before every question. -/
def standardInstructions : Text :=
  "You are Temi, a helpful robot assistant. The user's current question is " ++
    "the most recent message. Previous messages provide context from our " ++
    "conversation history. Keep your answers short, don't use formatting or " ++
    "try to list things, keep a natural flow of conversation"

/-- The client that the settings describe. -/
def Client.ofConfig (config : AssistantConfig) : Client :=
  { address := config.address.toValue
    token := config.token.toValue
    model := config.model.toValue
    instructions := standardInstructions
    locate := Service.address? }

/-- A service can be asked only with an address and a token. -/
def Client.isAvailable (client : Client) : Bool :=
  client.token.isGiven && client.address.isGiven

/-- A question as it is sent. -/
structure Request where
  address : Address
  authorization : Text
  body : Value

/-- The two parts of a turn, who said it and what. -/
def pair? : Value → Except Failure (Value × Value)
  | .tuple [role, content] | .list [role, content] => .ok (role, content)
  | .text [role, content] => .ok (.text [role], .text [content])
  | .dict [(role, _), (content, _)] => .ok (role, content)
  | .tuple _ | .list _ | .text _ | .dict _ => .error .notAPair
  | _ => .error .wrongType

/-- One message. -/
def message (role content : Value) : Value :=
  .ofMembers [("role", role), ("content", content)]

/-- The messages that ask a question after the turns of a conversation. -/
def messages (instructions prompt : Text) (turns : List Value) :
    Except Failure (List Value) := do
  let pairs ← turns.mapM pair?
  return message (.text "system") (.text instructions) ::
    pairs.map (fun (role, content) => message role content) ++
    [message (.text "user") (.text prompt)]

/-- By what a request shows that it is allowed: by the user and the password in its
address if there are some, or else by a token. -/
def authorization (address : Address) (token : Text) : Text :=
  match address.credentials with
  | ([], []) => token
  | (user, password) =>
    "Basic " ++ Text.base64 (Text.bytes (user ++ ':' :: password))

/-- The request that asks a question. -/
def Client.request (client : Client) (prompt : Text) (turns : List Value) :
    Except Failure Request := do
  let messages ← messages client.instructions prompt turns
  if !client.token.isWritable then throw .integerTooLong
  let token := "Bearer " ++ client.token.display
  let address ← client.locate client.address
  Service.needAscii token
  let body ← (Value.ofMembers [("model", client.model),
    ("stream", .boolean false), ("messages", .list messages)]).sent?
  Service.needAscii address.place
  return ⟨address, authorization address token, body⟩

/-- A member of a value, absent if it is missing. Only dictionaries have
members. -/
def member? (name : Text) : Value → Except Failure Value
  | .dict members => .ok ((Named.find? (.text name) members).getD .absent)
  | _ => .error .notOffered

/-- The value, or another one if it is not given. -/
def orElse (value other : Value) : Value := if value.isGiven then value else other

/-- The text of the first answer in a body. -/
def answer? (body : Value) : Except Failure Text := do
  let .dict members := body | throw (.chat (.unexpectedBody body.typeName))
  let .list (choice :: _) := (Named.find? (.text "choices") members).getD .absent
    | throw (.chat .noChoices)
  let .dict _ := choice | throw (.chat .noChoices)
  let message := orElse (← member? "message" choice) (.dict [])
  match orElse (← member? "content" message) (.text []) with
  | .text content => return Text.trim content
  | _ => throw .notOffered

/-- The text that a reply from an address holds. -/
def read (address : Address) (reply : Reply) : Except Failure Text :=
  match reply with
  | .unreachable reason => .error (.chat (.unreachable reason))
  | .response status body => do
    Service.needWhole address
    if status ≠ 200 then throw (.chat (.status status))
    let some text := Json.bodyText? body | throw (.chat .noJson)
    match Json.read text with
    | .error _ => throw (.chat .noJson)
    | .ok json => answer? json.toValue

/-- What comes of a question: the answer, the request that was sent, if one was,
and the replies that the service has left. -/
def ask (client : Client) (prompt : Text) (turns : List Value) (replies : Replies) :
    Except Failure Text × Option Request × Replies :=
  if !client.isAvailable then (.error (.chat .unavailable), none, replies)
  else
    match client.request prompt turns with
    | .error failure => (.error failure, none, replies)
    | .ok request =>
      let (reply, replies) := replies.next
      (read request.address reply, some request, replies)

end Chat

end RobotRules
