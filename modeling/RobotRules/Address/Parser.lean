import RobotRules.Address.Basic
import RobotRules.Host.Basic

/-! Reading addresses. -/

namespace RobotRules.Address

/-! Characters that stand for themselves in the parts of an address. -/

/-- Printable ASCII characters other than some. -/
def isPrintableBut (others : String) (c : Char) : Bool :=
  0x20 ≤ c.toNat && c.toNat ≤ 0x7e && !others.toList.contains c

def isPlainInUser : Char → Bool := isPrintableBut " \"#<>?`\x7b\x7d/;=@[\\]^|"

def isPlainInPath : Char → Bool := isPrintableBut " \"#<>?`\x7b\x7d"

def isPlainInQuery : Char → Bool := isPrintableBut " \"#<>"

def isPlainInFragment : Char → Bool := isPrintableBut " \"<>`"

/-! Parts. -/

/-- The texts before and behind the first of some marks; there is no second text
where there is no mark. -/
def cutAt (mark : Char) (text : Text) : Text × Option Text :=
  match text.dropWhile (· != mark) with
  | [] => (text, none)
  | _ :: rest => (text.takeWhile (· != mark), some rest)

/-- The scheme in front of a colon, and what follows it. A colon at the front
belongs to a scheme without a name. -/
def cutScheme (text : Text) : Text × Text :=
  let isInScheme (c : Char) : Bool := c.isAlphanum || c == '+' || c == '-' || c == '.'
  let scheme := text.takeWhile isInScheme
  match text.dropWhile isInScheme with
  | ':' :: rest => if (scheme.head?.map Char.isAlpha).getD true then (scheme, rest) else ([], text)
  | _ => ([], text)

/-- What stands behind two slashes up to the path, and what follows it. -/
def cutAuthority : Text → Text × Text
  | '/' :: '/' :: rest =>
    let isInside (c : Char) : Bool := c != '/' && c != '?' && c != '#'
    (rest.takeWhile isInside, rest.dropWhile isInside)
  | text => ([], text)

/-- The user in front of the last at sign, and what follows it. -/
def cutUser (text : Text) : Text × Text :=
  if text.contains '@' then
    let place := (text.reverse.takeWhile (· != '@')).reverse
    (text.take (text.length - place.length - 1), place)
  else ([], text)

/-- The host, and what follows it. One that begins with a bracket goes up to the
last closing one. -/
def cutHost (text : Text) : Text × Text :=
  if text.head? == some '[' && text.contains ']' then
    let rest := (text.reverse.takeWhile (· != ']')).reverse
    (text.take (text.length - rest.length), rest)
  else (text.takeWhile (· != ':'), text.dropWhile (· != ':'))

/-- The ports that go without saying behind a scheme in small letters. -/
def defaultPorts : List (Text × Int) :=
  [("ftp", 21), ("http", 80), ("https", 443), ("ws", 80), ("wss", 443)]

/-- The port that a text behind the host names, if it names one and this does not
go without saying. -/
def port? (scheme text : Text) : Option (Option Int) :=
  let number := match text with
    | ':' :: number => number
    | number => number
  if number.isEmpty then some none
  else do
    let port ← Number.readInteger? number
    return if defaultPorts.contains (scheme, port) then none else some port

/-- Whether a path may stand where it does: behind an authority it begins with a
slash; behind nothing it does not look like an authority or a scheme. -/
def isPathInPlace (hasScheme hasAuthority : Bool) (path : Text) : Bool :=
  if hasAuthority then path.isEmpty || path.head? == some '/'
  else hasScheme || (path.head? != some ':' && !"//".toList.isPrefixOf path)

def isControl (c : Char) : Bool := c.toNat < 0x20 || c.toNat == 0x7f

/-! Addresses. -/

/-- The address that a text spells, if it spells one. -/
def parse? (text : Text) : Option Address := do
  if text.length > longest || text.any isControl then failure
  let (reference, fragment) := cutAt '#' text
  let (scheme, rest) := cutScheme reference
  let (authority, rest) := cutAuthority rest
  let (path, query) := cutAt '?' rest
  let (user, place) := cutUser authority
  let (host, portText) := cutHost place
  let sent ← Host.sent? host
  let port ← port? scheme portText
  let hasAuthority := !user.isEmpty || !sent.isEmpty || port.isSome
  if !isPathInPlace (!scheme.isEmpty) hasAuthority path then failure
  let path := if !scheme.isEmpty || hasAuthority then resolve path else path
  return {
    scheme := scheme.map Char.toLower
    user := Text.escape isPlainInUser user
    host := sent
    port := port
    path := Text.escape isPlainInPath path
    query := query.map (Text.escape isPlainInQuery)
    fragment := fragment.map (Text.escape isPlainInFragment) }

example : (parse? "https://u:p@Chat.test:443/a/../c d?q#f").map write =
    some "https://u:p@chat.test/c%20d?q#f".toList := by decide +kernel
example : (parse? "//chat.test/v1").map isAbsolute = some false := by decide +kernel
example : parse? "https://chat.test:x/" = none := by decide +kernel

end RobotRules.Address
