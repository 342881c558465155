import RobotRules.Loop.Basic
import RobotRules.Rule.Bundled
import RobotRules.Service

/-! Rules from a remote address. The loop is handed the text that arrives; if
none does, the failure is reported and the loop stays as it is. -/

namespace RobotRules

namespace Rule

/-- The rules at an address whose service gives a reply. -/
def fetch (locate : Service.Locator) (address : Value) (reply : Reply) :
    Except Failure Text := do
  if !address.isGiven then throw (.fetch .noAddress)
  let address ← locate address
  Service.needAscii address.place
  match reply with
  | .unreachable reason => throw (.fetch (.unreachable reason))
  | .response status body =>
    Service.needWhole address
    if status ≠ 200 then throw (.fetch (.status status))
    return body

end Rule

namespace Loop

/-- Hands over the rules at an address: whether there were any, the loop, and
what is reported. -/
def replaceFrom (locate : Service.Locator) (address : Value) (reply : Reply) (loop : Loop) :
    Except Failure (Bool × Loop × Log) :=
  match Rule.fetch locate address reply with
  | .ok text => .ok (true, loop.replace text, [])
  | .error (.fetch error) =>
    .ok (false, loop, [⟨.error, Rule.sourceChannel, error.message⟩])
  | .error failure => .error failure

end Loop

end RobotRules
