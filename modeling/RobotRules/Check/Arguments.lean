import RobotRules.Number.Integer
import RobotRules.Text.Basic

/-! The arguments of the command that checks rules. A switch begins with hyphens
and may be cut short as long as it stays unique; its value follows it, or stands
behind an equals sign, where a double hyphen stands for no value. One argument that
is no switch names a file. Behind a bare double hyphen there are no switches. -/

namespace RobotRules.Check

/-- The switches. -/
inductive Switch where
  | help
  | remote
  | render
  | ticks
  | asr
  | logLevel
deriving DecidableEq, Repr

namespace Switch

/-- The switches by their long names. -/
def longNames : List (Text × Switch) :=
  [("--help", .help), ("--remote", .remote), ("--render", .render),
   ("--ticks", .ticks), ("--asr", .asr), ("--log-level", .logLevel)]

/-- The short name of the only switch that has one. -/
def shortHelp : Text := "-h"

def takesValue : Switch → Bool
  | .help | .remote | .render => false
  | .ticks | .asr | .logLevel => true

/-- The switch of a full name. -/
def ofName? (name : Text) : Option Switch :=
  if name = shortHelp then some .help
  else (longNames.find? fun (other, _) => other == name).map Prod.snd

/-- The switches whose long names begin with a text. -/
def beginningWith (start : Text) : List Switch :=
  (longNames.filter fun (name, _) => start.isPrefixOf name).map Prod.snd

end Switch

/-- What an argument is. -/
inductive Token where
  /-- A file, or the value of a switch. -/
  | word (text : Text)
  /-- The bare double hyphen. -/
  | separator
  /-- A switch, and the value that is attached to it. -/
  | switch (switch : Switch) (attached : Option Text)
  /-- Something that looks like a switch. -/
  | unknown
deriving DecidableEq, Repr

namespace Token

/-- The texts before and behind the first equals sign, if there is one. -/
def cutAtEquals? (text : Text) : Option (Text × Text) :=
  match text.dropWhile (· != '=') with
  | [] => none
  | _ :: value => some (text.takeWhile (· != '='), value)

def isDecimal (c : Char) : Bool := (Character.digit? c).isSome

/-- Whether a text is a hyphen and a number, with or without a point. One line
feed may follow it. -/
def isNegativeNumber (text : Text) : Bool :=
  let isNumber (digits : Text) : Bool :=
    match digits.dropWhile isDecimal with
    | [] => !digits.isEmpty
    | '.' :: fraction => !fraction.isEmpty && fraction.all isDecimal
    | _ => false
  match text with
  | '-' :: rest =>
    isNumber rest || (rest.getLast? == some '\n' && isNumber rest.dropLast)
  | _ => false

/-- The short switch with more behind it, which may only repeat it. -/
def ofTail (tail : Text) : Token :=
  .switch .help (if !tail.isEmpty && tail.all (· == 'h') then none else some tail)

/-- What begins with a hyphen and is no full name of a switch. It may be cut
short, or be the short switch with more behind it; a number is a word, and so is
a text with a blank in it. There is none if it is cut too short. -/
def ofIncomplete? (text : Text) : Option Token :=
  let isLong := (text.drop 1).head? == some '-'
  let (start, attached) := match cutAtEquals? text with
    | some (start, value) => (start, some value)
    | none => (text, none)
  match if isLong then Switch.beginningWith start else [] with
  | [found] => some (.switch found attached)
  | _ :: _ :: _ => none
  | [] =>
    if !isLong && Switch.shortHelp.isPrefixOf text then some (ofTail (text.drop 2))
    else if isNegativeNumber text || text.contains ' ' then some (.word text)
    else some .unknown

/-- What an argument is, if that is clear. -/
def ofText? (text : Text) : Option Token :=
  match text with
  | '-' :: _ :: _ =>
    match Switch.ofName? text with
    | some found => some (.switch found none)
    | none =>
      match cutAtEquals? text with
      | some (name, value) =>
        if name = Switch.shortHelp then some (ofTail value)
        else
          match Switch.ofName? name with
          | some found => some (.switch found (some value))
          | none => ofIncomplete? text
      | none => ofIncomplete? text
  | _ => some (.word text)

/-- What the arguments are, if all are clear. -/
def ofTexts? : List Text → Option (List Token)
  | [] => some []
  | text :: rest =>
    if text = "--" then some (.separator :: rest.map .word)
    else do return (← ofText? text) :: (← ofTexts? rest)

end Token

/-- What the arguments ask for. -/
structure Arguments where
  path : Option Text := none
  remote : Bool := false
  render : Bool := false
  /-- A number, unless no value was given for it. -/
  ticks : Option Int := some 0
  asr : Option Text := none
  /-- The name of a level, unless no value was given for it. -/
  logLevel : Option Text := some "WARNING".toList

/-- What is to be done. -/
inductive Task where
  | check (arguments : Arguments)
  | showHelp
  | refuse

namespace Arguments

/-- The arguments with a switch that takes no value. -/
def withSwitch (switch : Switch) (arguments : Arguments) : Arguments :=
  match switch with
  | .remote => { arguments with remote := true }
  | .render => { arguments with render := true }
  | _ => arguments

/-- The value that is meant by the one attached to a switch. -/
def attached? (value : Text) : Option Text := if value = ['-', '-'] then none else some value

/-- The arguments with the value of a switch that takes one. -/
def withValue? (switch : Switch) (value : Option Text) (arguments : Arguments) :
    Option Arguments :=
  match switch with
  | .ticks => do return { arguments with ticks := ← value.mapM Number.readInteger? }
  | .asr => some { arguments with asr := value }
  | .logLevel => some { arguments with logLevel := value }
  | _ => none

/-- Goes through the tokens. The first word that belongs to no switch is the
path; what is left over then is not accepted in the end. A request for help is
granted if nothing before it is refused. -/
def ofTokens (arguments : Arguments) (hasPath hasExtras : Bool) :
    List Token → Task
  | [] => if hasExtras then .refuse else .check arguments
  | .unknown :: rest => ofTokens arguments hasPath true rest
  | .switch .help attached :: _ => if attached.isNone then .showHelp else .refuse
  | .switch switch (some value) :: rest =>
    match arguments.withValue? switch (attached? value) with
    | some arguments => ofTokens arguments hasPath hasExtras rest
    | none => .refuse
  | .switch switch none :: rest =>
    if switch.takesValue then
      match rest with
      | .word value :: rest =>
        match arguments.withValue? switch (some value) with
        | some arguments => ofTokens arguments hasPath hasExtras rest
        | none => .refuse
      | _ => .refuse
    else ofTokens (arguments.withSwitch switch) hasPath hasExtras rest
  | .word text :: rest =>
    if hasPath then ofTokens arguments hasPath true rest
    else
      let arguments := { arguments with path := some text }
      match rest with
      | .separator :: rest => ofTokens arguments true hasExtras rest
      | rest => ofTokens arguments true hasExtras rest
  | .separator :: rest => ofTokens arguments hasPath (hasExtras || hasPath) rest

/-- What a list of arguments asks for. -/
def read (texts : List Text) : Task :=
  match Token.ofTexts? texts with
  | some tokens => ofTokens {} false false tokens
  | none => .refuse

end Arguments

end RobotRules.Check
