import RobotRules.Text.Basic

/-! The blocks of a rule text. A block is a pair of brackets with no bracket
between them; what it holds is cut at an arrow into a condition and actions.
All else in the text is passed over. -/

namespace RobotRules

/-- What the arrow between condition and actions looks like. -/
def arrow : Text := "-->"

/-- A block of a rule text: all that stands between its brackets, and the two
parts of it. -/
structure Block where
  body : Text
  condition : Text
  actions : Text
deriving DecidableEq, Repr

namespace Block

/-- The bodies of the innermost bracket pairs. Behind an opening bracket,
`body` holds in reverse what has come since. -/
def bodiesFrom (body : Option Text) : Text → List Text
  | [] => []
  | '[' :: rest => bodiesFrom (some []) rest
  | ']' :: rest =>
    match body with
    | some characters => characters.reverse :: bodiesFrom none rest
    | none => bodiesFrom none rest
  | c :: rest => bodiesFrom (body.map (c :: ·)) rest

/-- The bodies of the innermost bracket pairs. -/
def bodies (text : Text) : List Text := bodiesFrom none text

/-- The texts before and behind the first arrow. -/
def cutAtArrow? : Text → Option (Text × Text)
  | [] => none
  | c :: rest =>
    match Text.after? arrow (c :: rest) with
    | some behind => some ([], behind)
    | none => (cutAtArrow? rest).map fun (before, behind) => (c :: before, behind)

/-- The two parts of a body. Some character has to stand behind the arrow. The
condition, white space at its front left out, begins with one character that
is not looked at, so an arrow right at the front is taken only for want of
another and only behind white space. -/
def cut? (body : Text) : Option (Text × Text) :=
  match Text.trimStart body with
  | [] => none
  | first :: rest =>
    match cutAtArrow? rest with
    | some (before, c :: behind) => some (first :: before, c :: behind)
    | _ =>
      match Text.after? arrow (first :: rest) with
      | some (c :: behind) =>
        if body = first :: rest then none else some ([], c :: behind)
      | _ => none

/-- The block with a body, if it can be cut. -/
def ofBody? (body : Text) : Option Block :=
  (cut? body).map fun (condition, actions) => ⟨body, condition, actions⟩

/-- The blocks of a text in order. -/
def ofText (text : Text) : List Block := (bodies text).filterMap ofBody?

/-- The block as it stands in the text. -/
def source (block : Block) : Text := "[" ++ block.body ++ "]"

/-- The text without the brackets around the whole rule set, if it has them. -/
def stripOuter (text : Text) : Text :=
  match Text.trim text with
  | '[' :: rest =>
    let inner := Text.trim rest.dropLast
    if rest.getLast? == some ']' && (inner.isEmpty || inner.head? == some '[') then
      inner
    else '[' :: rest
  | stripped => stripped

example : ofText "x [ a --> b ] [[]" = [⟨" a --> b ", "a ", " b "⟩] := by decide
example : (cut? " --> b").isSome = true ∧ cut? "--> b" = none := by decide
example : cut? "a -->" = none := by decide

end Block

end RobotRules
