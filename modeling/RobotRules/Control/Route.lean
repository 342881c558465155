import RobotRules.Text.Basic

/-! What a request asks for: its path and its method lead to a route. The routes are the
server's own, apart from those to its description. How a path is compared with them, and
what comes of a slash at its end, is a convention of the web framework. -/

namespace RobotRules.Control

/-- All that can be asked for. -/
inductive Route where
  | health
  | state
  | history (name : Text)
  | setState (name : Text)
  | rules
  | replaceRules
  | reloadRules
  | capabilities
  | hear
  | wakeUp
  | description
deriving DecidableEq, Repr

namespace Route

/-- The route to the pages that describe the server, by its methods. -/
def toDescription : List (Text × Route) := [("GET", .description), ("HEAD", .description)]

/-- The routes on a path, given by its segments, by their methods. -/
def onSegments : List Text → List (Text × Route)
  | [first] =>
    if first = "health" then [("GET", .health)]
    else if first = "state" then [("GET", .state)]
    else if first = "rules" then [("GET", .rules), ("PUT", .replaceRules)]
    else if first = "capabilities" then [("GET", .capabilities)]
    else if first = "openapi.json" || first = "docs" || first = "redoc" then toDescription
    else []
  | [first, second] =>
    if first = "state" && !second.isEmpty then [("POST", .setState second)]
    else if first = "rules" && second = "reload" then [("POST", .reloadRules)]
    else if first = "events" && second = "asr" then [("POST", .hear)]
    else if first = "events" && second = "wakeup" then [("POST", .wakeUp)]
    else if first = "docs" && second = "oauth2-redirect" then toDescription
    else []
  | [first, second, third] =>
    if first = "state" && !second.isEmpty && third = "history" then
      [("GET", .history second)]
    else []
  | _ => []

/-- The routes on a path. A line feed at its end belongs to a name that ends there,
but otherwise is passed over. -/
def onPath (path : Text) : List (Text × Route) :=
  match path with
  | '/' :: rest =>
    match onSegments (Text.splitOn '/' rest) with
    | [] => if rest.getLast? == some '\n' then onSegments (Text.splitOn '/' rest.dropLast) else []
    | routes => routes
  | _ => []

end Route

/-- Where a request leads. -/
inductive Destination where
  | route (route : Route)
  | wrongMethod
  /-- To another path. -/
  | elsewhere (path : Text)
  | nowhere
deriving DecidableEq, Repr

/-- Where a method on a path leads. A path on which there is no route leads to the
one without the slashes at its end. -/
def Destination.find (method path : Text) : Destination :=
  match Route.onPath path with
  | [] =>
    let shorter := (path.reverse.dropWhile (· == '/')).reverse
    if (Route.onPath shorter).isEmpty then .nowhere else .elsewhere shorter
  | routes =>
    match routes.find? fun (other, _) => other == method with
    | some (_, found) => .route found
    | none => .wrongMethod

example : Destination.find "GET" "/state/a/history" = .route (.history "a") := by decide
example : Destination.find "POST" "/state/" = .elsewhere "/state" := by decide
example : Destination.find "POST" "/state/a\n" = .route (.setState "a\n") := by decide

end RobotRules.Control
