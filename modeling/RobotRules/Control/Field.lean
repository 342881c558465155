import RobotRules.Json.Encoding
import RobotRules.Json.Reader
import RobotRules.Text.Case
import RobotRules.Value.Named

/-! Reading what a request carries. A parameter of the query is a text; a member
of the body is a JSON value. What is not of the type that is asked for is
refused. What can pass for an integer or a boolean is a convention of the web framework
that the server is built on; the engine is handed what has been read. -/

namespace RobotRules.Control

/-- Why a request is not done. -/
inductive Refusal where
  /-- Some things in it are missing or of a wrong type: these, or the whole in which
  they are missing. -/
  | invalid (things : List Value)
  /-- Its body is not written in JSON, or there is none. -/
  | noJson
  /-- Its body holds a number that is too long to be read, or bytes that are no
  text. -/
  | unreadable

/-! Integers. -/

/-- The integer that a text spells in ASCII digits, without zeros that say
nothing. -/
def strictInteger? (text : Text) : Option Int :=
  let (negative, digits) := match text with
    | '-' :: rest => (true, rest)
    | _ => (false, text)
  if digits.isEmpty || !digits.all Char.isDigit || digits.length > Number.digitLimit then
    none
  else if digits.head? == some '0' && digits.length > 1 then none
  else
    let value : Int := Number.ofDigits (digits.filterMap Character.digit?)
    some (if negative then -value else value)

/-- The text without the zeros at its front, as far as they say nothing.
Underscores among them are passed over too. -/
def dropZeros? : Text → Option Text
  | [] => none
  | '0' :: rest =>
    let zeros := '0' :: rest.takeWhile fun c => c = '0' || c = '_'
    let last := zeros.drop (zeros.length - 1)
    match rest.dropWhile fun c => c = '0' || c = '_' with
    | [] => some last
    | '.' :: behind => some (last ++ '.' :: behind)
    | c :: behind => if c.isDigit || c = '-' then some (c :: behind) else none
  | c :: rest => if c.isDigit || c = '-' then some (c :: rest) else none

/-- The text without a point behind which only zeros stand, at least one. -/
def dropFraction (text : Text) : Text :=
  match text.dropWhile (· != '.') with
  | '.' :: zero :: rest =>
    if (zero :: rest).all (· == '0') then text.takeWhile (· != '.') else text
  | _ => text

/-- The text without the underscores between its digits. -/
def dropUnderscores (text : Text) : Text :=
  if text.head? == some '_' || text.getLast? == some '_' || Text.count "__" text > 0 then
    text
  else text.filter (· != '_')

/-- The sign of an integer as it is kept, and what follows it. A plus is kept out,
and no minus may follow it. -/
def cutSign? : Text → Option (Text × Text)
  | '+' :: '-' :: _ => none
  | '+' :: rest => some ([], rest)
  | '-' :: rest => some (['-'], rest)
  | text => some ([], text)

/-- The integer that a parameter spells. -/
def integer? (text : Text) : Option Int := do
  let (sign, unsigned) ← cutSign? (Number.unpad text)
  strictInteger? (sign ++ dropUnderscores (dropFraction (← dropZeros? unsigned)))

example : integer? " +1_000.0 " = some 1000 ∧ integer? "-007" = some (-7) := by decide
example : integer? "7." = none ∧ integer? "-_7" = none ∧ integer? "--7" = none := by decide

/-! Booleans. -/

/-- The ASCII letters of a text in lower case. -/
def lowerAscii (text : Text) : Text := text.map Char.toLower

/-- The boolean that a parameter names. -/
def boolean? (text : Text) : Option Bool :=
  let word := lowerAscii text
  let isAmong (words : List String) : Bool :=
    words.any fun other => other.toList == word
  if isAmong ["1", "on", "t", "true", "y", "yes"] then some true
  else if isAmong ["0", "off", "f", "false", "n", "no"] then some false
  else none

/-! Parameters and bodies. -/

/-- A parameter that may be left out. -/
def optional {α : Type} (read : Text → Option α) :
    Option Text → Except Refusal (Option α)
  | none => .ok none
  | some text =>
    match read text with
    | some value => .ok (some value)
    | none => .error (.invalid [.text text])

/-- The members of a body, which has to be a JSON object. -/
def members (body : Option Text) : Except Refusal (Named Value) :=
  match body with
  | none | some [] => .error .noJson
  | some body =>
    match Json.bodyText? body with
    | none => .error .unreadable
    | some text =>
      match Json.read text with
      | .error .integerTooLong => .error .unreadable
      | .error (.malformed ..) => .error .noJson
      | .ok json =>
        match json.toValue with
        | .dict members => .ok members
        | other => .error (.invalid [other])

/-- Two things that are read from a request. If both are refused, it is for all
reasons. -/
def both {α β : Type} : Except Refusal α → Except Refusal β → Except Refusal (α × β)
  | .ok first, .ok second => .ok (first, second)
  | .error (.invalid things), .error (.invalid others) => .error (.invalid (things ++ others))
  | .error refusal, _ => .error refusal
  | _, .error refusal => .error refusal

/-- A member that has to be a text. -/
def textMember (name : Text) (members : Named Value) : Except Refusal Text :=
  match members.find? (.text name) with
  | some (.text text) => .ok text
  | some other => .error (.invalid [other])
  | none => .error (.invalid [.dict members])

/-- A member that has to be a text if it is there. -/
def optionalTextMember (name : Text) (members : Named Value) :
    Except Refusal (Option Text) :=
  match members.find? (.text name) with
  | none => .ok none
  | some (.text text) => .ok (some text)
  | some other => .error (.invalid [other])

/-- A member that is a text or null or missing. -/
def nullableTextMember (name : Text) (members : Named Value) :
    Except Refusal (Option Text) :=
  match members.find? (.text name) with
  | some .absent => .ok none
  | _ => optionalTextMember name members

/-- A member that can be the value of a parameter of the robot's state: no list
and no object. A missing one is null. -/
def scalarMember (name : Text) (members : Named Value) : Except Refusal Value :=
  match (members.find? (.text name)).getD .absent with
  | .list items => .error (.invalid [.list items])
  | .tuple items => .error (.invalid [.tuple items])
  | .dict entries => .error (.invalid [.dict entries])
  | value => .ok value

/-- Whether a value can stand for an integer of 64 bits. -/
def isDirection : Value → Bool
  | .integer _ | .boolean _ => true
  | .text text => (integer? text).isSome
  | .float number =>
    match number.toInt? with
    | some whole => whole.natAbs < Nat.pow 2 63
    | none => false
  | _ => false

/-- A member that has to stand for an integer if it is there. -/
def directionMember (name : Text) (members : Named Value) : Except Refusal Unit :=
  let value := (members.find? (.text name)).getD (.integer 0)
  if isDirection value then .ok () else .error (.invalid [value])

end RobotRules.Control
