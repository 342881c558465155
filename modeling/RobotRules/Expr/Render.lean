import RobotRules.Expr.Basic
import RobotRules.Number.Integer

/-! Expressions as rule text. No parentheses are written, so a tree reads back
only if its operands bind tighter than it does. -/

namespace RobotRules.Expr

mutual
/-- The text of an expression. -/
def render : Expr → Text
  | .literal value => "\"" ++ value ++ "\""
  | .call receiver method arguments =>
    receiver ++ "." ++ method ++ "(" ++
      Text.join ", " (renderAll arguments) ++ ")"
  | .equals left right => render left ++ " == " ++ render right
  | .and left right => render left ++ " && " ++ render right
  | .or left right => render left ++ " || " ++ render right
  | .matching pattern text =>
    matchingName ++ "(\"" ++ pattern ++ "\", " ++ render text ++ ")"
  | .capture pattern text index =>
    captureName ++ "(\"" ++ pattern ++ "\", " ++ render text ++ ", " ++
      Number.writeInteger index ++ ")"
  | .foreign _ => []

def renderAll : List Expr → List Text
  | [] => []
  | expr :: rest => render expr :: renderAll rest
end

/-- Why a tree has no text. -/
inductive RenderError where
  | foreign (typeName : Text)
  | integerTooLong

mutual
/-- The first place, from left to right, that cannot be written. -/
def renderError? : Expr → Option RenderError
  | .literal _ => none
  | .call _ _ arguments => renderErrorIn? arguments
  | .equals left right | .and left right | .or left right =>
    (renderError? left).or (renderError? right)
  | .matching _ text => renderError? text
  | .capture _ text index =>
    (renderError? text).or
      (if Number.isWritable index then none else some .integerTooLong)
  | .foreign value => some (.foreign value.typeName)

def renderErrorIn? : List Expr → Option RenderError
  | [] => none
  | expr :: rest => (renderError? expr).or (renderErrorIn? rest)
end

/-- The text of a tree, if each of its places can be written. -/
def render? (expr : Expr) : Except RenderError Text :=
  match renderError? expr with
  | some error => .error error
  | none => .ok (render expr)

example : render (.equals (.call "Memory" "getStateParam" [.literal "mode"])
    (.literal "nav")) = "Memory.getStateParam(\"mode\") == \"nav\"" := by decide

end RobotRules.Expr
