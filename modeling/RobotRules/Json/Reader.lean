import RobotRules.Json.Basic
import RobotRules.Number.Decimal

/-! Reading JSON. Beside the standard, the words `NaN`, `Infinity` and
`-Infinity` are numbers, and of two members of an object with the same name
the later one counts. -/

namespace RobotRules.Json

/-- What is wrong with a text that is no JSON. -/
inductive Problem where
  | value
  | memberName
  | colon
  | comma
  | unterminated
  | control
  | escape
  | unicodeEscape
  | extra
  | byteOrderMark

def Problem.message : Problem → Text
  | .value => "Expecting value"
  | .memberName => "Expecting property name enclosed in double quotes"
  | .colon => "Expecting ':' delimiter"
  | .comma => "Expecting ',' delimiter"
  | .unterminated => "Unterminated string starting at"
  | .control => "Invalid control character at"
  | .escape => "Invalid \\escape"
  | .unicodeEscape => "Invalid \\uXXXX escape"
  | .extra => "Extra data"
  | .byteOrderMark => "Unexpected UTF-8 BOM (decode using utf-8-sig)"

/-- Why a text is not read. A problem is located by the text that is left where
it shows. -/
inductive Fault where
  | malformed (problem : Problem) (rest : Text)
  | integerTooLong

def isSpace (c : Char) : Bool := c == ' ' || c == '\t' || c == '\n' || c == '\r'

def skipSpace (text : Text) : Text := text.dropWhile isSpace

/-! Strings. -/

/-- The number that four hexadecimal digits at the front spell. Something has to
follow them, at least the quote that ends the string. -/
def fourHex? : Text → Option Nat
  | a :: b :: c :: d :: _ :: _ => do
    let digits ← [a, b, c, d].mapM Character.hexDigit?
    return digits.foldl (fun number digit => number * 16 + digit) 0
  | _ => none

/-- The character that a letter behind a backslash stands for. -/
def escaped? : Char → Option Char
  | '"' => some '"'
  | '\\' => some '\\'
  | '/' => some '/'
  | 'b' => some '\x08'
  | 'f' => some '\x0c'
  | 'n' => some '\n'
  | 'r' => some '\r'
  | 't' => some '\t'
  | _ => none

/-- The low half of a surrogate pair at the front, if there is one: `none` where
the text goes on in another way, a fault where an escape is spoilt. -/
def lowSurrogate? : Text → Except Fault (Option Nat)
  | '\\' :: 'u' :: rest =>
    if rest.length < 5 then .ok none
    else
      match fourHex? rest with
      | none => .error (.malformed .unicodeEscape ('u' :: rest))
      | some unit => .ok (if Text.isLowSurrogate unit then some unit else none)
  | _ => .ok none

/-- The code points up to the quote that ends a string, and what follows it. The
string starts at `start`; at most `fuel` steps are taken. -/
def readString (start : Text) : Nat → Text → Except Fault (Points × Text)
  | 0, _ => .error (.malformed .unterminated start)
  | _, [] => .error (.malformed .unterminated start)
  | _, ['\\'] => .error (.malformed .unterminated start)
  | _ + 1, '"' :: rest => .ok ([], rest)
  | fuel + 1, '\\' :: 'u' :: rest =>
    match fourHex? rest with
    | none => .error (.malformed .unicodeEscape ('u' :: rest))
    | some unit => do
      let after := rest.drop 4
      let low ← if Text.isHighSurrogate unit then lowSurrogate? after else .ok none
      match low with
      | some low => do
        let (others, rest) ← readString start fuel (after.drop 6)
        return (.char (Text.ofPair unit low) :: others, rest)
      | none => do
        let (others, rest) ← readString start fuel after
        return (.ofUnit unit :: others, rest)
  | fuel + 1, '\\' :: letter :: rest =>
    match escaped? letter with
    | none => .error (.malformed .escape ('\\' :: letter :: rest))
    | some c => do
      let (others, rest) ← readString start fuel rest
      return (.char c :: others, rest)
  | fuel + 1, c :: rest =>
    if c.toNat < 32 then .error (.malformed .control (c :: rest))
    else do
      let (others, rest) ← readString start fuel rest
      return (.char c :: others, rest)

/-! Numbers. -/

/-- The ASCII digits at the front, and what follows them. -/
def digits (text : Text) : Text × Text :=
  (text.takeWhile Char.isDigit, text.dropWhile Char.isDigit)

/-- The part of a number before the point, which has no needless zero. -/
def wholePart? : Text → Option (Text × Text)
  | '0' :: rest => some (['0'], rest)
  | text =>
    match digits text with
    | ([], _) => none
    | whole => some whole

/-- The digits behind a point, if there are some. -/
def fractionPart : Text → Text × Text
  | '.' :: rest =>
    match digits rest with
    | ([], _) => ([], '.' :: rest)
    | fraction => fraction
  | text => ([], text)

/-- The power of ten, if there is one. -/
def powerPart (text : Text) : Option Int × Text :=
  match text with
  | mark :: rest =>
    if mark = 'e' ∨ mark = 'E' then
      let (negative, unsigned) := Number.splitSign rest
      match digits unsigned with
      | ([], _) => (none, text)
      | (power, after) =>
        let value : Int := Number.ofDigits (power.filterMap Character.digit?)
        (some (if negative then -value else value), after)
    else (none, text)
  | [] => (none, [])

/-- The number at the front. One without fraction and power is an integer. -/
def readNumber (text : Text) : Except Fault (Json × Text) :=
  let (negative, unsigned) := match text with
    | '-' :: rest => (true, rest)
    | _ => (false, text)
  match wholePart? unsigned with
  | none => .error (.malformed .value text)
  | some (whole, afterWhole) =>
    let (fraction, afterFraction) := fractionPart afterWhole
    let (power, rest) := powerPart afterFraction
    let value := Number.ofDigits ((whole ++ fraction).filterMap Character.digit?)
    if fraction.isEmpty && power.isNone then
      if whole.length > Number.digitLimit then .error .integerTooLong
      else .ok (.integer (if negative then -(value : Int) else value), rest)
    else
      let decimal : Decimal := ⟨value, power.getD 0 - fraction.length⟩
      .ok (.float (decimal.toDouble negative), rest)

/-- The words that are values. -/
def constants : List (Text × Json) :=
  [("null", .null), ("true", .boolean true), ("false", .boolean false),
   ("NaN", .nan), ("Infinity", .float (.ofMagnitude false Double.infinite)),
   ("-Infinity", .float (.ofMagnitude true Double.infinite))]

/-- The word or number at the front. -/
def readScalar (text : Text) : Except Fault (Json × Text) :=
  match constants.find? fun constant => constant.1.isPrefixOf text with
  | some (word, value) => .ok (value, text.drop word.length)
  | none => readNumber text

/-! Lists and objects. -/

mutual
/-- The value at the front, and what follows it. -/
def readValue : Nat → Text → Except Fault (Json × Text)
  | 0, text => .error (.malformed .value text)
  | fuel + 1, text =>
    match text with
    | '"' :: rest => do
      let (points, rest) ← readString text (rest.length + 1) rest
      return (.string points, rest)
    | '[' :: rest =>
      match skipSpace rest with
      | ']' :: rest => .ok (.list [], rest)
      | rest => do
        let (items, rest) ← readItems fuel rest
        return (.list items, rest)
    | '\x7b' :: rest =>
      match skipSpace rest with
      | '\x7d' :: rest => .ok (.object [], rest)
      | rest => do
        let (members, rest) ← readMembers fuel [] rest
        return (.object members, rest)
    | text => readScalar text

/-- The items up to the bracket that ends a list. -/
def readItems : Nat → Text → Except Fault (List Json × Text)
  | 0, text => .error (.malformed .value text)
  | fuel + 1, text => do
    let (item, rest) ← readValue fuel text
    match skipSpace rest with
    | ']' :: rest => return ([item], rest)
    | ',' :: rest =>
      let (items, rest) ← readItems fuel (skipSpace rest)
      return (item :: items, rest)
    | rest => .error (.malformed .comma rest)

/-- The members up to the brace that ends an object, added to the ones read
before. -/
def readMembers : Nat → List (Points × Json) → Text →
    Except Fault (List (Points × Json) × Text)
  | 0, _, text => .error (.malformed .memberName text)
  | fuel + 1, members, text =>
    match text with
    | '"' :: afterQuote => do
      let (name, rest) ← readString text (afterQuote.length + 1) afterQuote
      match skipSpace rest with
      | ':' :: rest =>
        let (value, rest) ← readValue fuel (skipSpace rest)
        let members := insert name value members
        match skipSpace rest with
        | '\x7d' :: rest => return (members, rest)
        | ',' :: rest => readMembers fuel members (skipSpace rest)
        | rest => .error (.malformed .comma rest)
      | rest => .error (.malformed .colon rest)
    | text => .error (.malformed .memberName text)
end

/-- The value that a whole text spells. -/
def read (text : Text) : Except Fault Json :=
  match text with
  | '\ufeff' :: _ => .error (.malformed .byteOrderMark text)
  | text => do
    let start := skipSpace text
    let (value, rest) ← readValue (2 * start.length + 2) start
    match skipSpace rest with
    | [] => return value
    | rest => .error (.malformed .extra rest)

/-- The message for a problem in a text: what is wrong, and the line, the column
and the number of characters before the place where it shows. -/
def Problem.report (problem : Problem) (text rest : Text) : Text :=
  let position := text.length - rest.length
  let before := text.take position
  let line := before.count '\n' + 1
  let column := (before.reverse.takeWhile (· != '\n')).length + 1
  problem.message ++ ": line " ++ Number.writeNat line ++ " column " ++
    Number.writeNat column ++ " (char " ++ Number.writeNat position ++ ")"

end RobotRules.Json
