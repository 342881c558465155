import RobotRules.Pattern.Basic
import RobotRules.Text.Search

/-! Matching. Where a text can be divided among the holes of a pattern in more
than one way, the first hole takes as much as it can, then the second, and so
on. -/

namespace RobotRules.Pattern

/-- Divides a text in two such that the second part passes the test `rest`, the
first part being as long as possible. -/
def longest (rest : Text → Option (List Text)) : Text → Option (List Text)
  | [] => (rest []).map ([] :: ·)
  | c :: text =>
    match longest rest text with
    | some (first :: others) => some ((c :: first) :: others)
    | _ => (rest (c :: text)).map ([] :: ·)

/-- What the holes of a pattern capture of a text, if the whole text matches. -/
def captures? : Pattern → Text → Option (List Text)
  | [], [] => some []
  | [], _ :: _ => none
  | .literal _ :: _, [] => none
  | .literal c :: pattern, d :: text =>
    if c = d then captures? pattern text else none
  | .wildcard :: pattern, text => longest (captures? pattern) text
  | .placeholder :: _, [] => none
  | .placeholder :: pattern, c :: text =>
    match longest (captures? pattern) text with
    | some (first :: others) => some ((c :: first) :: others)
    | _ => none

/-- Whether a written pattern matches a text. -/
def matchesText (pattern text : Text) : Bool :=
  (captures? (ofText pattern) (Text.normalize text)).isSome

/-- What a written pattern captures of a text at its hole number `index`. The
capture is looked up in the text without regard to case and given in the
spelling of the text; a capture that cannot be found there is given in lower
case. -/
def extract? (pattern text : Text) (index : Int) : Option Text := do
  let captures ← captures? (ofText pattern) (Text.normalize text)
  if index < 0 then none
  let captured := Text.trim (← captures[index.toNat]?)
  return (Text.findLike? captured (Text.trim text)).getD captured

example : extract? "go to \x7bplace\x7d" "Go to Kitchen " 0 = some "Kitchen" := by
  decide
example : extract? "*a*" "banana" 0 = some "banan" := by decide

end Pattern

end RobotRules
