import RobotRules.Expr.Render

/-! Rules: a condition and the actions to take when it holds. -/

namespace RobotRules

structure Rule where
  condition : Expr
  actions : List Expr

namespace Rule

/-- The text of a rule. -/
def render (rule : Rule) : Text :=
  "[" ++ rule.condition.render ++ " --> " ++
    Text.join "; " (rule.actions.map Expr.render) ++ "]"

/-- The text of a rule set, one rule to a line. -/
def renderAll (rules : List Rule) : Text :=
  "[\n" ++ Text.join "\n" (rules.map fun rule => "    " ++ rule.render) ++ "\n]"

/-- Whether two rules are equal. -/
def same (left right : Rule) : Bool :=
  left.condition.same right.condition && Expr.sameAll left.actions right.actions

/-- Whether two rule sets are equal. -/
def sameAll : List Rule → List Rule → Bool
  | [], [] => true
  | left :: lefts, right :: rights => left.same right && sameAll lefts rights
  | _, _ => false

end Rule

end RobotRules
