import RobotRules.Expr.Parser
import RobotRules.Log
import RobotRules.Rule.Basic
import RobotRules.Rule.Block

/-! Reading rule sets. A block that is no rule is reported and left out; the
others count as before. -/

namespace RobotRules.Rule

/-- The rule with these texts for its condition and its actions. -/
def parse (condition actions : Text) : Except ParseError Rule := do
  let condition ← Expr.parse condition
  let actions ← (Nesting.splitActions actions).mapM Expr.parse
  if actions.isEmpty then .error .noActions else return ⟨condition, actions⟩

/-- The channel on which blocks are reported. -/
def channel : Text := "rulebot.engine.parser"

/-- The warning for a block that is no rule. -/
def warning (block : Block) (error : ParseError) : LogEntry :=
  ⟨.warning, channel, "Invalid rule " ++ block.source ++ ": " ++ error.message⟩

/-- The rules of a list of blocks, and a warning for each block that is none. -/
def ofBlocks : List Block → List Rule × Log
  | [] => ([], [])
  | block :: blocks =>
    let (rules, log) := ofBlocks blocks
    match parse block.condition block.actions with
    | .ok rule => (rule :: rules, log)
    | .error error => (rules, warning block error :: log)

/-- The rules of a text, and a warning for each block that is none. -/
def parseAll (text : Text) : List Rule × Log :=
  ofBlocks (Block.ofText (Block.stripOuter text))

example : (parseAll "[[\"a\" --> A.b()] [c --> A.b()]]").1.length = 1 := by decide

end RobotRules.Rule
