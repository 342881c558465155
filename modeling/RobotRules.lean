import RobotRules.Capability.Registry
import RobotRules.Character.Blank
import RobotRules.Character.Case
import RobotRules.Character.Digits
import RobotRules.Character.Letters
import RobotRules.Character.Visible
import RobotRules.Config.Environment
import RobotRules.Control.Session
import RobotRules.Evaluation
import RobotRules.Files
import RobotRules.Json.Reader
import RobotRules.Json.Writer
import RobotRules.Language
import RobotRules.Main
import RobotRules.Memory
import RobotRules.Number.Decimal
import RobotRules.Pattern.Captures
import RobotRules.Proofs.Chat.Request
import RobotRules.Proofs.Config.Reloading
import RobotRules.Proofs.Control.Handover
import RobotRules.Proofs.Control.Intake
import RobotRules.Proofs.Expr.Association
import RobotRules.Proofs.Expr.Canonical
import RobotRules.Proofs.Expr.Grammar
import RobotRules.Proofs.Expr.Reading
import RobotRules.Proofs.Expr.Recognition
import RobotRules.Proofs.Expr.Soundness
import RobotRules.Proofs.Expr.Texts
import RobotRules.Proofs.Loop.Containment
import RobotRules.Proofs.Loop.Course
import RobotRules.Proofs.Loop.HotReload
import RobotRules.Proofs.Loop.Lifecycle
import RobotRules.Proofs.Loop.Quiet
import RobotRules.Proofs.Memory.WriteLog
import RobotRules.Proofs.Nesting.Closed
import RobotRules.Proofs.Nesting.Closing
import RobotRules.Proofs.Nesting.Segments
import RobotRules.Proofs.Operator.Occurrence
import RobotRules.Proofs.Operator.Search
import RobotRules.Proofs.Pattern.Capture
import RobotRules.Proofs.Pattern.Division
import RobotRules.Proofs.Pattern.Extraction
import RobotRules.Proofs.Rule.Accounting
import RobotRules.Proofs.Rule.Blocks
import RobotRules.Proofs.Rule.Bundled
import RobotRules.Proofs.Rule.Independence
import RobotRules.Proofs.Rule.RoundTrip
import RobotRules.Proofs.Session.Answers
import RobotRules.Proofs.Text
import RobotRules.Rule.Parser
import RobotRules.Text.Search
import RobotRules.Value.Equality
import RobotRules.Value.Printed
import RobotRules.Proofs.Evaluation.Order
import RobotRules.Proofs.Evaluation.Preservation
import RobotRules.Proofs.Loop.Preservation
import RobotRules.Proofs.Capability.Equipment
import RobotRules.Proofs.Loop.Life
import RobotRules.Proofs.Capability.Management
import RobotRules.Proofs.Loop.Upkeep
import RobotRules.Proofs.Capability.Places
import RobotRules.Proofs.Loop.Places
import RobotRules.Proofs.Capability.Movement
import RobotRules.Proofs.Loop.Movement
import RobotRules.Proofs.Loop.Shutdown
import RobotRules.Proofs.Loop.Conversation
import RobotRules.Proofs.Pattern.Spelling
import RobotRules.Proofs.Chat.Replies
import RobotRules.Proofs.Evaluation.Footprint
import RobotRules.Proofs.Loop.Deferral
import RobotRules.Proofs.Memory.Agreement
import RobotRules.Proofs.Evaluation.Agreement
import RobotRules.Proofs.Capability.Agreement
import RobotRules.Proofs.Loop.Commutation
import RobotRules.Proofs.Memory.Windows
import RobotRules.Proofs.Config.Secrecy
import RobotRules.Proofs.Config.Rejection
import RobotRules.Proofs.Memory.Growth
import RobotRules.Proofs.Capability.Naming
import RobotRules.Proofs.Evaluation.WriteSet
import RobotRules.Proofs.Loop.Cascade
import RobotRules.Proofs.Rule.Arrows
import RobotRules.Proofs.Check.Trial
import RobotRules.Proofs.Evaluation.MemoryCalls
import RobotRules.Proofs.Nesting.Splitting
import RobotRules.Proofs.Operator.Cut
import RobotRules.Proofs.Language
import RobotRules.Proofs.Session.Fallback
