import RobotRules.Expr.Parser
import RobotRules.Expr.Render

/-! Why an operation fails. Each cause belongs to a class that is named in logs
and answers; some causes also have a message. -/

namespace RobotRules

/-- Why a question to the chat service has no answer. -/
inductive ChatError where
  | unavailable
  | unreachable (reason : Text)
  | status (code : Int)
  | noJson
  | unexpectedBody (typeName : Text)
  | noChoices

def ChatError.message : ChatError → Text
  | .unavailable => "Chat client is not available"
  | .unreachable reason => "Request failed: " ++ reason
  | .status code => "HTTP error: " ++ Number.writeInteger code
  | .noJson => "Invalid JSON response"
  | .unexpectedBody typeName => "Unexpected response body: " ++ typeName
  | .noChoices => "No choices in API response"

/-- Why rules cannot be fetched. -/
inductive FetchError where
  | noAddress
  | unreachable (reason : Text)
  | status (code : Int)

def FetchError.message : FetchError → Text
  | .noAddress => "No remote rules URL configured"
  | .unreachable reason => "Failed to reload rules: " ++ reason
  | .status code => "Failed to reload rules: HTTP " ++ Number.writeInteger code

/-- The causes of failure. -/
inductive Failure where
  /-- A text is no expression or no rule. -/
  | parse (error : ParseError)
  /-- A call names a capability that is not registered. -/
  | unknownReceiver (receiver : Text)
  /-- A call names an operation that its capability lacks. -/
  | unknownMethod (receiver method : Text)
  /-- A value stands where an expression should be evaluated. -/
  | notEvaluable (typeName : Text)
  /-- A value stands where an expression should be written. -/
  | notRenderable (typeName : Text)
  /-- A capability is asked for an operation that it lacks. -/
  | noOperation (capability operation : Text)
  /-- An operation is given too few or too many arguments. -/
  | argumentCount
  /-- A list or dictionary is used as the name of a parameter. -/
  | notAName
  /-- A value is of a type that an operation cannot use. -/
  | wrongType
  /-- A value is asked for something that its type does not offer. -/
  | notOffered
  /-- A conversation turn has not exactly two parts. -/
  | notAPair
  /-- A text does not spell a number. -/
  | notANumber
  /-- An integer has too many digits to be read or written. -/
  | integerTooLong
  /-- A float that JSON cannot express. -/
  | notInJson
  /-- A header of a request is not ASCII. -/
  | notAscii
  /-- An address that no request can be sent to. -/
  | invalidAddress
  /-- A response comes from an address without a scheme and a host. -/
  | notWhole
  /-- A scheme for which there is no service. -/
  | unknownScheme
  /-- A port that is no number. -/
  | notAPort
  /-- A connection that stays open takes the place of a response. -/
  | upgraded
  /-- A response leads on to an address that is none. -/
  | wrongRedirect
  /-- Responses lead on again and again. -/
  | tooManyRedirects
  /-- A number is too large for a float. -/
  | overflow
  /-- A word runs over the end of a text. -/
  | overrun
  /-- Work is handed to an executor that was shut down. -/
  | executorClosed
  /-- A loop that was stopped is started. -/
  | restarted
  /-- A capability without a name is registered. -/
  | nameless
  /-- There is no capability of this name to be made. -/
  | noCapability
  /-- A path names something that no file can. -/
  | invalidPath
  | chat (error : ChatError)
  | fetch (error : FetchError)
  /-- A capability that is none of the engine's own fails. -/
  | probe

namespace Failure

/-- The class of a failure. -/
def className : Failure → Text
  | .parse _ => "RuleParseError"
  | .unknownReceiver _ | .unknownMethod .. | .notEvaluable _ => "EvaluationError"
  | .noOperation .. | .noCapability | .unknownScheme => "KeyError"
  | .notRenderable _ | .argumentCount | .notAName | .wrongType => "TypeError"
  | .notOffered => "AttributeError"
  | .notAPair | .notANumber | .integerTooLong | .notInJson | .nameless
  | .notWhole | .notAPort | .invalidPath | .probe => "ValueError"
  | .notAscii => "UnicodeEncodeError"
  | .invalidAddress => "InvalidURL"
  | .upgraded => "_Upgrade"
  | .wrongRedirect => "RemoteProtocolError"
  | .tooManyRedirects => "TooManyRedirects"
  | .overflow => "OverflowError"
  | .overrun => "IndexError"
  | .executorClosed | .restarted => "RuntimeError"
  | .chat _ => "ChatClientError"
  | .fetch _ => "RuleSourceError"

/-- The message of a failure, if it has one. -/
def message? : Failure → Option Text
  | .parse error => some error.message
  | .unknownReceiver receiver => some ("Unknown receiver: " ++ receiver)
  | .unknownMethod receiver method =>
    some ("Method '" ++ method ++ "' not found in receiver '" ++ receiver ++ "'")
  | .notEvaluable typeName | .notRenderable typeName =>
    some ("Not an expression: " ++ typeName)
  | .noOperation capability operation =>
    some (capability ++ " has no operation '" ++ operation ++ "'")
  | .restarted => some "Interaction loop cannot be restarted after stop()"
  | .nameless => some "Capability has no receiver name"
  | .chat error => some error.message
  | .fetch error => some error.message
  | .probe => some "probe failure"
  | _ => none

/-- What a log says about a failure: its message, or its class if it has
none. -/
def report (failure : Failure) : Text := failure.message?.getD failure.className

/-- The failure to write an expression. -/
def ofRenderError : Expr.RenderError → Failure
  | .foreign typeName => .notRenderable typeName
  | .integerTooLong => .integerTooLong

/-- A number that is needed; it is missing where it is too large. -/
def orOverflow {α : Type} : Option α → Except Failure α
  | some number => .ok number
  | none => .error .overflow

end Failure

end RobotRules
