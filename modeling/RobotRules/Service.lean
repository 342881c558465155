import RobotRules.Address.Parser
import RobotRules.Failure
import RobotRules.Value.Basic

/-! Services in the network, as the engine sees them: each request gets a reply,
which is a response or the news that there is none. -/

namespace RobotRules

/-- What comes of a request. -/
inductive Reply where
  | response (status : Int) (body : Text)
  | unreachable (reason : Text)
deriving DecidableEq, Repr

/-- The replies that a service has ready. They are given in order, the last one
again and again; a service with none gives empty responses. -/
abbrev Replies := List Reply

/-- The next reply, and the replies after it. -/
def Replies.next : Replies → Reply × Replies
  | [] => (.response 200 [], [])
  | [last] => (last, [last])
  | reply :: replies => (reply, replies)

namespace Service

/-- How an address is found in a setting. What counts as an address is up to the client
that sends the requests, and the engine works with any. -/
abbrev Locator := Value → Except Failure Address

/-- The client in use reads addresses as they are usually written. A reference is taken as
a path at no host. -/
def address? : Locator
  | .text text =>
    match (Address.parse? text).bind Address.nowhere.follow? with
    | some address => .ok address
    | none => .error .invalidAddress
  | _ => .error .wrongType

/-- What is sent in the head of a request has to be ASCII. -/
def needAscii (text : Text) : Except Failure Unit :=
  if text.all fun c => c.toNat < 128 then .ok () else .error .notAscii

/-- A response is taken only from a whole address. -/
def needWhole (address : Address) : Except Failure Unit :=
  if address.isAbsolute then .ok () else .error .notWhole

end Service

end RobotRules
