import RobotRules.Control.Request
import RobotRules.Control.Response
import RobotRules.Control.Route
import RobotRules.Engine

/-! The control server: it shows the engine and drives it. What it is asked is
looked at before it is looked at whether there is an engine. -/

namespace RobotRules.Control

/-- The server. -/
structure Server where
  engine : Engine
  /-- Whether the engine has been set up. -/
  isUp : Bool
  /-- The address from which rules are reloaded, if there is one at all. -/
  source : Option Value

/-- What surrounds a request: how the address of the rules is found, the reply that is
given there, and what a detector of languages says about the text in the request. -/
structure Setting where
  locate : Service.Locator
  reply : Reply
  detection : Language.Detection

/-- What comes of a request. -/
abbrev Outcome := Response × Server

namespace Server

/-- Whether there is a registry with capabilities in it. -/
def names (server : Server) : List Text :=
  if server.isUp then server.engine.world.names else []

def health (server : Server) : Response :=
  let loop := server.engine.loop
  .ofMembers [("status", .text "healthy"), ("service", .text "rulebot"),
    ("initialized", .boolean server.isUp),
    ("loop_state", if server.isUp then .text loop.phase.name else .absent),
    ("rule_count", .integer (if server.isUp then loop.rules.length else 0)),
    ("tick_count", .integer (if server.isUp then loop.ticks else 0)),
    ("capabilities", .list (server.names.map .text))]

/-- All parameters of the robot's state. -/
def state (server : Server) : Response :=
  let current := server.engine.world.memory.current
  .ofMembers [("state", .dict (current.map fun (name, value) => (name, shown value)))]

/-- The members that show an entry of a history. -/
def entryMembers (entry : Entry) : List (Text × Value) :=
  [("value", shown entry.value), ("timestamp", .integer entry.timestamp)]

/-- The history of a parameter in a window of time. -/
def history (name : Text) (start finish : Option Int) (server : Server) : Response :=
  let memory := server.engine.world.memory
  if memory.hasHistory (.text name) then
    let entries := memory.window (.text name) start finish
    .ofMembers [("name", .text name),
      ("history", .list (entries.map fun entry => .ofMembers (entryMembers entry)))]
  else .detail 404 ("No history for parameter: " ++ name)

/-- Sets a parameter and shows the entry that was made. -/
def setState (name : Text) (value : Value) (server : Server) : Outcome :=
  let engine := (server.engine.act (World.write (.text name) value)).2
  let members := match (engine.world.memory.entries (.text name)).getLast? with
    | some entry => entryMembers entry
    | none => []
  (.ofMembers (("name", .text name) :: members), { server with engine := engine })

/-- The rules in force and the text that is held. -/
def rules (server : Server) : Response :=
  let loop := server.engine.loop
  .ofMembers [("rule_count", .integer loop.rules.length),
    ("rules", .list (loop.rules.map fun rule => .text rule.render)),
    ("reload_pending", .boolean loop.isPending),
    ("text", .text loop.text)]

/-- Hands a text to the loop and tells how many rules are in it. -/
def replaceRules (text : Text) (server : Server) : Outcome :=
  let (rules, log) := Rule.parseAll text
  let engine := (server.engine.recordAll log).replace text
  (.ofMembers [("status", .text "pending"), ("parsed_rules", .integer rules.length)],
    { server with engine := engine })

/-- Reloads the rules from their address. The response tells whether that
succeeded only if it is waited for. -/
def reloadRules (wait : Bool) (locate : Service.Locator) (address : Value) (reply : Reply)
    (server : Server) : Outcome :=
  let status (word : Text) : Response :=
    .ofMembers [("status", .text word), ("url", address)]
  match server.engine.replaceFrom locate address reply with
  | .error _ => (if wait then .failed else status "scheduled", server)
  | .ok (arrived, engine) =>
    let response :=
      if !wait then status "scheduled"
      else if arrived then status "pending"
      else .detail 502 ("Failed to reload rules from " ++ address.display)
    (response, { server with engine := engine })

/-- The capabilities with their operations. -/
def capabilities (server : Server) : Response :=
  let world := server.engine.world
  .ofMembers [("capabilities", .ofMembers (world.names.map fun name =>
    (name, .list ((world.operationNames name).map .text))))]

/-- The robot heard a text. -/
def hear (text : Text) (language : Option Text) (detection : Language.Detection)
    (server : Server) : Outcome :=
  let (result, engine) := server.engine.hear text language detection
  let response : Response := match result with
    | .ok () => .ofMembers [("status", .text "received"), ("text", .text text)]
    | .error _ => .failed
  (response, { server with engine := engine })

/-- The robot heard its name. -/
def wakeUp (server : Server) : Outcome :=
  let (result, engine) := server.engine.act Event.wakeUp
  let response : Response := match result with
    | .ok true => .ofMembers [("status", .text "accepted")]
    | .ok false => .ofMembers [("status", .text "ignored")]
    | .error _ => .failed
  (response, { server with engine := engine })

/-- What comes of something that needs a part of the engine. -/
def need (part : Text) (server : Server) (outcome : Outcome) : Outcome :=
  if server.isUp then outcome
  else (.detail 503 (part ++ " not initialized"), server)

def loopPart : Text := "Interaction loop"
def memoryPart : Text := "Memory"
def eventsPart : Text := "Robot events"
def registryPart : Text := "Registry"
def sourcePart : Text := "Rule source"

/-- Does what a request asks on its route. -/
def follow (request : Request) (setting : Setting) (server : Server) :
    Route → Except Refusal Outcome
  | .health => return (server.health, server)
  | .state => return server.need memoryPart (server.state, server)
  | .history name => do
    let (start, finish) ← both (optional integer? (request.parameter? "start"))
      (optional integer? (request.parameter? "end"))
    return server.need memoryPart (server.history name start finish, server)
  | .setState name => do
    let value ← scalarMember "value" (← members request.body)
    return server.need memoryPart (server.setState name value)
  | .rules => return server.need loopPart (server.rules, server)
  | .replaceRules => do
    let text ← textMember "text" (← members request.body)
    return server.need loopPart (server.replaceRules text)
  | .reloadRules => do
    let wait ← optional boolean? (request.parameter? "wait")
    return server.need loopPart <| match server.source with
      | none => (.detail 503 (sourcePart ++ " not initialized"), server)
      | some address => server.reloadRules (wait.getD false) setting.locate address setting.reply
  | .capabilities => return server.need registryPart (server.capabilities, server)
  | .hear => do
    let members ← members request.body
    let (text, language) ← both (textMember "text" members)
      (nullableTextMember "language" members)
    return server.need eventsPart (server.hear text language setting.detection)
  | .wakeUp => do
    let members ← members request.body
    let _ ← both (optionalTextMember "wakeup_word" members)
      (directionMember "direction" members)
    return server.need eventsPart server.wakeUp
  | .description => return (.page, server)

/-- How often a request is led to another path. -/
def mostRedirects : Nat := 20

/-- Answers a request that may still be led to another path some times. -/
def answerWithin (setting : Setting) (server : Server) :
    Nat → Request → Except Failure Outcome
  | redirects, request =>
    match Destination.find request.method request.path with
    | .nowhere => .ok (.detail 404 "Not Found", server)
    | .wrongMethod => .ok (.detail 405 "Method Not Allowed", server)
    | .route route =>
      match server.follow request setting route with
      | .ok outcome => .ok outcome
      | .error refusal => .ok (.ofRefusal refusal, server)
    | .elsewhere path =>
      match redirects with
      | 0 => .error .tooManyRedirects
      | left + 1 =>
        match request.leadTo? path with
        | some request => answerWithin setting server left request
        | none => .error .wrongRedirect

/-- Answers a request. There may be no answer where it leads. -/
def answer (request : Request) (setting : Setting) (server : Server) :
    Except Failure Outcome :=
  answerWithin setting server mostRedirects request

end Server

end RobotRules.Control
