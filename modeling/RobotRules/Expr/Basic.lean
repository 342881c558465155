import RobotRules.Value.Basic

/-! The expressions of the rule language: texts, calls of named operations,
three operators, and two built-in functions on patterns. -/

namespace RobotRules

/-- An expression. A tree that was built otherwise than by reading text may hold
any value where an expression belongs; such a place is `foreign`. -/
inductive Expr where
  /-- A text. -/
  | literal (value : Text)
  /-- The operation `method` of the capability `receiver`. -/
  | call (receiver method : Text) (arguments : List Expr)
  /-- Equality of two values of one kind. -/
  | equals (left right : Expr)
  /-- Truth of both operands. -/
  | and (left right : Expr)
  /-- Truth of one operand at least. -/
  | or (left right : Expr)
  /-- Whether a text matches a pattern. -/
  | matching (pattern : Text) (text : Expr)
  /-- What a text holds at a placeholder of a pattern. -/
  | capture (pattern : Text) (text : Expr) (index : Int)
  /-- A value that is no expression. -/
  | foreign (value : Value)

namespace Expr

instance : Inhabited Expr := ⟨.literal []⟩

mutual
/-- Whether two trees without foreign places are equal. -/
def same : Expr → Expr → Bool
  | .literal left, .literal right => left == right
  | .call receiver method arguments, .call receiver' method' arguments' =>
    receiver == receiver' && method == method' && sameAll arguments arguments'
  | .equals left right, .equals left' right'
  | .and left right, .and left' right'
  | .or left right, .or left' right' => same left left' && same right right'
  | .matching pattern text, .matching pattern' text' =>
    pattern == pattern' && same text text'
  | .capture pattern text index, .capture pattern' text' index' =>
    pattern == pattern' && same text text' && index == index'
  | _, _ => false

def sameAll : List Expr → List Expr → Bool
  | [], [] => true
  | left :: lefts, right :: rights => same left right && sameAll lefts rights
  | _, _ => false
end

/-- Whether the expression is itself a call of the operation. -/
def isCallTo (receiver method : Text) : Expr → Bool
  | .call receiver' method' _ => receiver' == receiver && method' == method
  | _ => false

end Expr

/-- The name of the function that tells whether a pattern matches a text. -/
def matchingName : Text := "PatternMatch"

/-- The name of the function that gives what a hole of a pattern takes in. -/
def captureName : Text := "ExtractParam"

end RobotRules
