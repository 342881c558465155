import RobotRules.Control.Query
import RobotRules.Service

/-! Requests to the control server. The server answers at every host; a target that
names none is a path at the host of the server itself. -/

namespace RobotRules.Control

/-- A request as it arrives. -/
structure Request where
  method : Text
  address : Address
  body : Option Text

namespace Request

/-- The address of the server itself. -/
def home : Address := ⟨"http", [], "localhost", none, [], none, none⟩

/-- The schemes of connections that stay open. -/
def openSchemes : List Text := ["ws", "wss"]

/-- The schemes that the server knows. -/
def schemes : List Text := "http".toList :: "https".toList :: openSchemes

/-- The request that goes to a target. A query that is given beside the target takes
the place of the one in it. -/
def ofTarget (method target : Text) (query : Option Query) (body : Option Text) :
    Except Failure Request := do
  let some address := (Address.parse? target).bind home.follow? | throw .invalidAddress
  let some address := match query with
      | none => some address
      | some [] => address.withQuery? none
      | some query => address.withQuery? (some query.write)
    | throw .invalidAddress
  Service.needAscii address.place
  if !schemes.contains address.scheme then throw .unknownScheme
  if address.host.contains ':' then throw .notAPort
  if openSchemes.contains address.scheme then throw .upgraded
  return ⟨method, address, body⟩

/-- The path that is meant by a request. What is escaped twice is read twice. -/
def path (request : Request) : Text :=
  Text.unescape (Text.unescape request.address.target)

/-- A parameter of a request. -/
def parameter? (name : Text) (request : Request) : Option Text :=
  (Query.read (request.address.query.getD [])).find? name

/-- The request that goes to another path at the same place, unless the address
gets too long by that. -/
def leadTo? (path : Text) (request : Request) : Option Request :=
  let isPlain (c : Char) : Bool := c == '/' || Text.isUnreserved c
  let address :=
    { request.address with
      user := []
      path := Text.escape isPlain path
      fragment := none }
  (Address.parse? address.write).map fun address => { request with address := address }

example : (ofTarget "GET" "/a/../rules/%2541?q" none none).toOption.map path =
    some "/rules/A".toList := by decide +kernel

end Request

end RobotRules.Control
