import RobotRules.Number.Integer
import RobotRules.Text.Escaped

/-! Addresses in a network. An address names a scheme, a host and a path, or is a
reference that names only some of them. -/

namespace RobotRules

/-- The parts of an address. Outside of the host, characters that could be
mistaken are escaped. -/
structure Address where
  scheme : Text
  /-- A user and a password, with a colon between them. -/
  user : Text
  host : Text
  port : Option Int
  path : Text
  query : Option Text
  fragment : Option Text
deriving DecidableEq, Repr

namespace Address

/-- The host with the port. -/
def place (address : Address) : Text :=
  (if address.host.contains ':' then '[' :: address.host ++ [']'] else address.host) ++
    match address.port with
    | some port => ':' :: Number.writeInteger port
    | none => []

/-- The user, the host and the port. -/
def authority (address : Address) : Text :=
  (if address.user.isEmpty then [] else address.user ++ ['@']) ++ address.place

/-- A part behind the mark that begins it, if there is that part. -/
def marked (mark : Char) : Option Text → Text
  | some part => mark :: part
  | none => []

/-- The text of an address. -/
def write (address : Address) : Text :=
  (if address.scheme.isEmpty then [] else address.scheme ++ [':']) ++
    (if address.authority.isEmpty then [] else "//".toList ++ address.authority) ++
    address.path ++ marked '?' address.query ++ marked '#' address.fragment

/-- Whether an address tells all by itself where it leads. -/
def isAbsolute (address : Address) : Bool :=
  !address.scheme.isEmpty && !address.host.isEmpty

/-- The path that is asked for at the host. -/
def target (address : Address) : Text :=
  if address.path.isEmpty then ['/'] else address.path

/-- The name of the user, and the password. -/
def credentials (address : Address) : Text × Text :=
  (Text.unescape (address.user.takeWhile (· != ':')),
    Text.unescape ((address.user.dropWhile (· != ':')).drop 1))

/-- No text of an address, and no part of it, is longer than this. -/
def longest : Nat := 65536

/-- The path from the root to a segment below the segments of another path. A
single point stands for the place itself, and two points take back the segment
before them. -/
def descend (above : List Text) (segment : Text) : List Text :=
  if segment = ['.'] then above
  else if segment = ['.', '.'] then
    if above = [[]] then above else above.dropLast
  else above ++ [segment]

/-- A path without points. -/
def resolve (path : Text) : Text :=
  Text.join ['/'] ((Text.splitOn '/' path).foldl descend [])

/-- The address that a reference leads to from a base. One that is not absolute
names a path at the host of the base. -/
def follow? (base reference : Address) : Option Address :=
  if reference.isAbsolute then some reference
  else
    let path := '/' :: reference.target.dropWhile (· == '/')
    let query := reference.query
    if path.length ≤ longest && (query.getD []).length ≤ longest then
      some { base with
        path := if base.isAbsolute then resolve path else path
        query := query }
    else none

/-- The address of no place. -/
def nowhere : Address := ⟨[], [], [], none, [], none, none⟩

/-- The address with another query. -/
def withQuery? (query : Option Text) (address : Address) : Option Address :=
  if address.path.length ≤ longest && (query.getD []).length ≤ longest then
    some { address with query := query }
  else none

example : resolve "/a/./b/../c" = "/a/c" ∧ resolve "/../.." = [] := by decide

end Address

end RobotRules
