import RobotRules.Host.Label
import RobotRules.Host.Numeric
import RobotRules.Text.Case
import RobotRules.Text.Escaped

/-! Hosts. They are written in many ways and sent in one: in small letters and in
ASCII. It is the client of a service that rewrites them, by the rules for names of
domains in other scripts. -/

namespace RobotRules.Host

/-- The characters that stand for themselves in a host. -/
def isPlain (c : Char) : Bool :=
  Text.isUnreserved c || "!$&'()*+,;=\"`\x7b\x7d%|\\".toList.contains c

/-- What stands between brackets, if a text begins and ends with them. -/
def unbracket? : Text → Option Text
  | '[' :: rest => if rest.getLast? == some ']' then some rest.dropLast else none
  | _ => none

/-- The host as it is sent, if there can be one of this name. -/
def sent? (host : Text) : Option Text :=
  if resemblesNumbers host then if isFourBytes host then some host else none
  else
    match unbracket? host with
    | some groups => if isZoned groups then some groups else none
    | none =>
      let small := Text.lower host
      if host.all Punycode.isBasic then some (Text.escape isPlain small)
      else sentName? small

example : sent? "Chat.TEST" = some "chat.test" ∧ sent? "[::1]" = some "::1" := by
  decide +kernel

end RobotRules.Host
