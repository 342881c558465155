import RobotRules.Text.Case

/-! Search without regard to case. -/

namespace RobotRules.Text

/-- The characters at the front of the text that read as `part` when case does
not matter. -/
def frontLike? : (part text : Text) → Option Text
  | [], _ => some []
  | _ :: _, [] => none
  | p :: part, c :: text =>
    if Character.fold p = Character.fold c then
      (frontLike? part text).map (c :: ·)
    else none

/-- The first stretch of the text that reads as `part` when case does not
matter, in the spelling of the text. -/
def findLike? (part : Text) : Text → Option Text
  | [] => frontLike? part []
  | c :: rest =>
    match frontLike? part (c :: rest) with
    | some found => some found
    | none => findLike? part rest

example : findLike? "kitchen" "to the KITChen" = some "KITChen" := by decide

end RobotRules.Text
