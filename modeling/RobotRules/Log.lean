import RobotRules.Text.Basic

/-! The log keeps what an operator should see: warnings and errors. -/

namespace RobotRules

inductive Severity where
  | warning
  | error
deriving DecidableEq, Repr

/-- The written name of a severity. -/
def Severity.name : Severity → Text
  | .warning => "WARNING"
  | .error => "ERROR"

/-- One line of the log: what the part of the engine named by `channel`
reports. -/
structure LogEntry where
  severity : Severity
  channel : Text
  message : Text
deriving DecidableEq, Repr

abbrev Log := List LogEntry

end RobotRules
