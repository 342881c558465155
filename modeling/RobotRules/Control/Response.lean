import RobotRules.Chat.Basic
import RobotRules.Control.Field

/-! Responses of the control server. A value goes out as JSON: lists for tuples,
and texts for the names in dictionaries. -/

namespace RobotRules.Control

mutual
/-- A value as it is shown. The names in a dictionary are written out. -/
def shown : Value → Value
  | .list items | .tuple items => .list (shownItems items)
  | .dict entries => .dict (shownEntries [] entries)
  | value => value

def shownItems : List Value → List Value
  | [] => []
  | item :: rest => shown item :: shownItems rest

def shownEntries (entries : Named Value) : List (Value × Value) → Named Value
  | [] => entries
  | (name, value) :: rest =>
    shownEntries (entries.insert (.text name.display) (shown value)) rest
end

/-- Whether the members of a name are kept to the server. -/
def isReserved : Value → Bool
  | .text name => ("_sa" : Text).isPrefixOf name
  | _ => false

mutual
/-- A value without the members that are kept to the server. -/
def openPart : Value → Value
  | .list items => .list (openItems items)
  | .dict entries => .dict (openEntries entries)
  | value => value

def openItems : List Value → List Value
  | [] => []
  | item :: rest => openPart item :: openItems rest

def openEntries : List (Value × Value) → List (Value × Value)
  | [] => []
  | (name, value) :: rest =>
    if isReserved name then openEntries rest
    else (name, openPart value) :: openEntries rest
end

/-- A response. -/
inductive Response where
  /-- An answer, or the reason why there is none. -/
  | content (status : Nat) (body : Value)
  /-- The request carries something that cannot be used. -/
  | refused
  /-- A page that is no JSON. -/
  | page
  /-- The server failed. -/
  | failed

namespace Response

/-- The code of a response. -/
def status : Response → Nat
  | .content status _ => status
  | .refused => 422
  | .page => 200
  | .failed => 500

/-- A response with members. The server fails at members that JSON cannot
express. -/
def ofMembers (members : List (Text × Value)) : Response :=
  match (openPart (.ofMembers members)).sent? with
  | .ok body => .content 200 body
  | .error _ => .failed

/-- A response that only gives a reason. -/
def detail (status : Nat) (reason : Text) : Response :=
  .content status (.ofMembers [("detail", .text reason)])

/-- The response to a request that is refused. It shows what was refused, so that the
server fails if JSON cannot express that. -/
def ofRefusal : Refusal → Response
  | .invalid things => if (things.mapM Value.sent?).isOk then .refused else .failed
  | .noJson => .refused
  | .unreadable => detail 400 "There was an error parsing the body"

end Response

end RobotRules.Control
