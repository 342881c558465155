import RobotRules.Character.CaseTable

/-! Case of single characters. Two mappings of a whole text need its context:
the Greek capital sigma, and the dotted capital I, which becomes two
characters. `RobotRules.Text.Case` adds these. -/

namespace RobotRules.Character

/-- The image of a code point under the first run that holds it. -/
def mapCase (runs : Array (Nat × Nat × Nat × Nat)) (code : Nat) : Nat :=
  match runs.find? fun (first, last, stride, _) =>
      first ≤ code && code ≤ last && (code - first) % stride == 0 with
  | some (first, _, _, target) => target + (code - first)
  | none => code

/-- The simple lower case of a character. -/
def lower (c : Char) : Char :=
  if c.toNat < 128 then c.toLower else Char.ofNat (mapCase lowerRuns c.toNat)

/-- The upper case of a character, which may be several characters. -/
def upper (c : Char) : List Char :=
  if c.toNat < 128 then [c.toUpper]
  else
    match upperExpansions.find? fun (code, _) => code == c.toNat with
    | some (_, expansion) => expansion.map Char.ofNat
    | none => [Char.ofNat (mapCase upperRuns c.toNat)]

/-- Characters that have case and do not yield to their neighbours. -/
def isCased (c : Char) : Bool := inRanges casedBounds c.toNat

/-- Characters that are passed over in the search for a cased neighbour. -/
def isCaseIgnorable (c : Char) : Bool := inRanges caseIgnorableBounds c.toNat

/-! Two characters are alike for a search that ignores case when their lower
cases are equal or belong to one of the following families. -/

/-- Families of lower-case characters that share an upper case, by their code
points; the first of each family represents it. -/
def caseFamilies : List (List Nat) :=
  [[0x69, 0x131], [0x73, 0x17f], [0xb5, 0x3bc], [0x345, 0x3b9, 0x1fbe],
   [0x390, 0x1fd3], [0x3b0, 0x1fe3], [0x3b2, 0x3d0], [0x3b5, 0x3f5],
   [0x3b8, 0x3d1], [0x3ba, 0x3f0], [0x3c0, 0x3d6], [0x3c1, 0x3f1],
   [0x3c2, 0x3c3], [0x3c6, 0x3d5], [0x432, 0x1c80], [0x434, 0x1c81],
   [0x43e, 0x1c82], [0x441, 0x1c83], [0x442, 0x1c84, 0x1c85],
   [0x44a, 0x1c86], [0x463, 0x1c87], [0x1c88, 0xa64b], [0x1e61, 0x1e9b],
   [0xfb05, 0xfb06]]

/-- The representative of all characters that a search without regard to case
takes for `c`. -/
def fold (c : Char) : Char :=
  let small := lower c
  if small.toNat < 128 then small
  else
    match caseFamilies.find? (·.contains small.toNat) with
    | some (representative :: _) => Char.ofNat representative
    | _ => small

/-- The Kelvin sign, the long s and the dotless i are found by their ASCII
relatives. -/
example : fold '\u212a' = 'k' ∧ fold 'ſ' = 's' ∧ fold 'ı' = 'i' := by
  decide +kernel

end RobotRules.Character
