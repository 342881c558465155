import RobotRules.Character.Digits
import RobotRules.Number.Integer

/-! Hosts that are given by numbers: four decimal numbers with dots between them,
or eight hexadecimal ones with colons. -/

namespace RobotRules.Host

/-- Whether a host could be four numbers with some character between each two.
Within a row of digits some of them can be taken for what stands between. -/
def resemblesNumbers (host : Text) : Bool :=
  let rows := Text.splitOn '.' (host.map fun c => if c.isDigit then c else '.')
  let spare := rows.foldl (fun spare row => spare + (row.length - 1) / 2) 0
  rows.all (!·.isEmpty) && rows.length ≤ 4 && 4 ≤ rows.length + spare

/-- A number from 0 to 255 without needless zeros. -/
def isByte (part : Text) : Bool :=
  !part.isEmpty && part.length ≤ 3 && part.all Char.isDigit &&
    (part == ['0'] || part.head? != some '0') &&
    Number.ofDigits (part.filterMap Character.digit?) ≤ 255

/-- Whether a host is four bytes. -/
def isFourBytes (host : Text) : Bool :=
  let parts := Text.splitOn '.' host
  parts.length == 4 && parts.all isByte

/-- One to four hexadecimal digits. -/
def isGroup (part : Text) : Bool :=
  !part.isEmpty && part.length ≤ 4 && part.all fun c => (Character.hexDigit? c).isSome

/-- The groups on one side of a gap, where there may be none. -/
def side (groups : List Text) : List Text := if groups = [[]] then [] else groups

/-- The groups of a host. Four bytes at its end stand for the last two. -/
def groupsOf (host : Text) : List Text :=
  let groups := Text.splitOn ':' host
  match groups.getLast? with
  | some last => if isFourBytes last then groups.dropLast ++ [['0'], ['0']] else groups
  | none => groups

/-- Whether a host is eight groups. Groups of zeros may be left out at one
place, where two colons meet. -/
def isEightGroups (host : Text) : Bool :=
  let groups := groupsOf host
  match ((groups.drop 1).dropLast).findIdx? List.isEmpty with
  | none => groups.length == 8 && groups.all isGroup
  | some index =>
    let kept := side (groups.take (index + 1)) ++ side (groups.drop (index + 2))
    kept.length < 8 && kept.all isGroup

/-- Whether a host is eight groups, behind which a zone may be named. -/
def isZoned (host : Text) : Bool :=
  match host.dropWhile (· != '%') with
  | [] => isEightGroups host
  | _ :: zone =>
    isEightGroups (host.takeWhile (· != '%')) && !zone.isEmpty && !zone.contains '%'

example : resemblesNumbers "1.2.3.999" = true ∧ isFourBytes "1.2.3.999" = false := by
  decide
example : isZoned "::ffff:1.2.3.4%eth0" = true ∧ isZoned "1::2::3" = false := by decide

end RobotRules.Host
