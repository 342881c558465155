import Mathlib.Data.List.Forall2
import Mathlib.Data.List.Lex
import RobotRules.Pattern.Captures
import RobotRules.Proofs.Pattern.Reading

/-! Which texts a pattern matches, and what it captures. A text is divided by a pattern if
it is made of the literals of the pattern and of one part for each hole. Among all
divisions of a text, the parts that are captured have the largest list of lengths in
lexicographic order: no part could be longer without an earlier one being shorter. -/

namespace RobotRules

/-- The parts of a text that a hole can take up. -/
def Piece.Admits : Piece → Text → Prop
  | .literal _, _ => False
  | .placeholder, part => part ≠ []
  | .wildcard, _ => True

namespace Pattern

/-- The text with `parts` in the place of the holes. -/
def substitute : Pattern → (parts : List Text) → Text
  | .literal c :: pattern, parts => c :: substitute pattern parts
  | .placeholder :: pattern, part :: parts => part ++ substitute pattern parts
  | .wildcard :: pattern, part :: parts => part ++ substitute pattern parts
  | _, _ => []

/-- The text is the pattern with one part in the place of each hole. -/
structure Divides (pattern : Pattern) (parts : List Text) (text : Text) : Prop where
  admitted : List.Forall₂ Piece.Admits (pattern.filter isHole) parts
  substituted : substitute pattern parts = text

/-- The parts divide the text, and their lengths are lexicographically largest. -/
def Greedy (pattern : Pattern) (parts : List Text) (text : Text) : Prop :=
  Divides pattern parts text ∧ ∀ others, Divides pattern others text →
    others.map List.length ≤ parts.map List.length

theorem divides_nil_iff {parts : List Text} {text : Text} :
    Divides [] parts text ↔ parts = [] ∧ text = [] := by
  constructor
  · rintro ⟨admitted, substituted⟩
    cases admitted
    exact ⟨rfl, substituted.symm⟩
  · rintro ⟨noParts, noText⟩
    subst noParts noText
    exact ⟨.nil, rfl⟩

theorem divides_literal_iff {c : Char} {pattern : Pattern} {parts : List Text}
    {text : Text} : Divides (.literal c :: pattern) parts text ↔
      ∃ rest, text = c :: rest ∧ Divides pattern parts rest := by
  constructor
  · rintro ⟨admitted, substituted⟩
    exact ⟨substitute pattern parts, substituted.symm, admitted, rfl⟩
  · rintro ⟨rest, equal, admitted, substituted⟩
    exact ⟨admitted, by rw [substitute, substituted, equal]⟩

theorem divides_hole_iff {hole : Piece} (isHole : isHole hole = true) {pattern : Pattern}
    {parts : List Text} {text : Text} : Divides (hole :: pattern) parts text ↔
      ∃ part others rest, parts = part :: others ∧ text = part ++ rest ∧
        hole.Admits part ∧ Divides pattern others rest := by
  have substitute_cons : ∀ part others, substitute (hole :: pattern) (part :: others) =
      part ++ substitute pattern others := by
    cases hole with
    | literal => cases isHole
    | _ => exact fun _ _ => rfl
  constructor
  · rintro ⟨admitted, substituted⟩
    rw [List.filter_cons_of_pos isHole] at admitted
    cases admitted with
    | @cons _ part _ others admits admitted =>
        rw [substitute_cons] at substituted
        exact ⟨part, others, _, rfl, substituted.symm, admits, admitted, rfl⟩
  · rintro ⟨part, others, rest, equalParts, equalText, admits, admitted, substituted⟩
    subst equalParts equalText
    refine ⟨?_, by rw [substitute_cons, substituted]⟩
    rw [List.filter_cons_of_pos isHole]
    exact .cons admits admitted

/-- A division is known by the lengths of its parts. -/
theorem Divides.eq_of_lengths {pattern : Pattern} {parts others : List Text} {text : Text}
    (divides : Divides pattern parts text) (divides' : Divides pattern others text)
    (same : parts.map List.length = others.map List.length) : parts = others := by
  induction pattern generalizing parts others text with
  | nil => rw [(divides_nil_iff.mp divides).1, (divides_nil_iff.mp divides').1]
  | cons piece pattern induction =>
      by_cases isHole : isHole piece = true
      · rcases (divides_hole_iff isHole).mp divides with
          ⟨part, parts, rest, equalParts, cut, _, dividesRest⟩
        rcases (divides_hole_iff isHole).mp divides' with
          ⟨part', parts', rest', equalParts', cut', _, dividesRest'⟩
        subst equalParts equalParts'
        rw [List.map_cons, List.map_cons, List.cons_eq_cons] at same
        have aligned := List.append_inj (cut.symm.trans cut') same.1
        rw [aligned.1, induction dividesRest (aligned.2 ▸ dividesRest') same.2]
      · cases piece with
        | literal c =>
            rcases divides_literal_iff.mp divides with ⟨rest, equal, dividesRest⟩
            rcases divides_literal_iff.mp divides' with ⟨rest', equal', dividesRest'⟩
            have sameRest : rest = rest' := (List.cons_eq_cons.mp (equal.symm.trans equal')).2
            exact induction dividesRest (sameRest ▸ dividesRest') same
        | _ => exact absurd rfl isHole

/-! The search for the longest part. -/

section Search

variable {rest : Text → Option (List Text)} {text : Text}

theorem longest_cons (c : Char) : longest rest (c :: text) =
    match longest rest text with
    | some (first :: others) => some ((c :: first) :: others)
    | _ => (rest (c :: text)).map ([] :: ·) := rfl

theorem longest_cons_of_none {c : Char} (missing : longest rest text = none) :
    longest rest (c :: text) = (rest (c :: text)).map ([] :: ·) := by
  rw [longest_cons, missing]

theorem longest_cons_of_some {c : Char} {first : Text} {others : List Text}
    (found : longest rest text = some (first :: others)) :
    longest rest (c :: text) = some ((c :: first) :: others) := by
  rw [longest_cons, found]

theorem exists_cons_of_longest {parts : List Text} (found : longest rest text = some parts) :
    ∃ first others, parts = first :: others := by
  induction text generalizing parts with
  | nil =>
      rcases Option.map_eq_some_iff.mp found with ⟨others, _, equal⟩
      exact ⟨[], others, equal.symm⟩
  | cons c text induction =>
      cases behind : longest rest text with
      | none =>
          rw [longest_cons_of_none behind] at found
          rcases Option.map_eq_some_iff.mp found with ⟨others, _, equal⟩
          exact ⟨[], others, equal.symm⟩
      | some parts' =>
          rcases induction behind with ⟨first, others, equal⟩
          rw [longest_cons_of_some (equal ▸ behind)] at found
          exact ⟨c :: first, others, (Option.some.inj found).symm⟩

/-- Nothing is found only if no cut of the text has a rest that passes. -/
theorem longest_eq_none_iff : longest rest text = none ↔
    ∀ front after, text = front ++ after → rest after = none := by
  induction text with
  | nil =>
      change (rest []).map ([] :: ·) = none ↔ _
      rw [Option.map_eq_none_iff]
      constructor
      · intro missing front after cut
        rw [(List.append_eq_nil_iff.mp cut.symm).2, missing]
      · exact fun each => each [] [] rfl
  | cons c text induction =>
      cases found : longest rest text with
      | none =>
          rw [longest_cons_of_none found, Option.map_eq_none_iff]
          constructor
          · intro missing front after cut
            rcases front with _ | ⟨d, front⟩
            · rw [List.nil_append] at cut
              rw [← cut, missing]
            · exact induction.mp found front after (List.cons_eq_cons.mp cut).2
          · exact fun each => each [] (c :: text) rfl
      | some parts =>
          rcases exists_cons_of_longest found with ⟨first, others, equal⟩
          rw [longest_cons_of_some (equal ▸ found)]
          refine ⟨by simp, fun each => ?_⟩
          have missing := induction.mpr fun front after cut =>
            each (c :: front) after (by rw [cut]; rfl)
          rw [missing] at found
          cases found

/-- What is found is a cut whose rest passes, and no cut further behind has such a
rest. -/
theorem exists_of_longest {first : Text} {others : List Text}
    (found : longest rest text = some (first :: others)) :
    ∃ after, text = first ++ after ∧ rest after = some others ∧
      ∀ longer after', text = longer ++ after' → first.length < longer.length →
        rest after' = none := by
  induction text generalizing first with
  | nil =>
      rcases Option.map_eq_some_iff.mp found with ⟨others', passes, equal⟩
      rw [List.cons_eq_cons] at equal
      refine ⟨[], by rw [← equal.1]; rfl, equal.2 ▸ passes, fun longer after' cut more => ?_⟩
      rw [(List.append_eq_nil_iff.mp cut.symm).1] at more
      exact absurd more (Nat.not_lt_zero _)
  | cons c text induction =>
      cases behind : longest rest text with
      | none =>
          rw [longest_cons_of_none behind] at found
          rcases Option.map_eq_some_iff.mp found with ⟨others', passes, equal⟩
          rw [List.cons_eq_cons] at equal
          refine ⟨c :: text, by rw [← equal.1]; rfl, equal.2 ▸ passes,
            fun longer after' cut more => ?_⟩
          rcases longer with _ | ⟨d, longer⟩
          · exact absurd more (Nat.not_lt_zero _)
          · exact longest_eq_none_iff.mp behind longer after' (List.cons_eq_cons.mp cut).2
      | some parts =>
          rcases exists_cons_of_longest behind with ⟨first', others', equal⟩
          subst equal
          rw [longest_cons_of_some behind] at found
          rw [Option.some.injEq, List.cons_eq_cons] at found
          rcases found with ⟨sameFirst, sameOthers⟩
          subst sameFirst sameOthers
          rcases induction behind with ⟨after, cut, passes, none⟩
          refine ⟨after, by rw [cut]; rfl, passes, fun longer after' cut' more => ?_⟩
          rcases longer with _ | ⟨d, longer⟩
          · exact absurd more (Nat.not_lt_zero _)
          · exact none longer after' (List.cons_eq_cons.mp cut').2
              (Nat.lt_of_succ_lt_succ more)

end Search

/-! What a pattern with a hole in front captures. -/

section Hole

variable {hole : Piece} {pattern : Pattern} {text : Text}

theorem captures?_wildcard : captures? (.wildcard :: pattern) text =
    longest (captures? pattern) text := rfl

theorem captures?_placeholder_cons (c : Char) :
    captures? (.placeholder :: pattern) (c :: text) =
      match longest (captures? pattern) text with
      | some (first :: others) => some ((c :: first) :: others)
      | _ => none := rfl

theorem captures?_placeholder_cons_of_none {c : Char}
    (missing : longest (captures? pattern) text = none) :
    captures? (.placeholder :: pattern) (c :: text) = none := by
  rw [captures?_placeholder_cons, missing]

theorem captures?_placeholder_cons_of_some {c : Char} {first : Text} {others : List Text}
    (found : longest (captures? pattern) text = some (first :: others)) :
    captures? (.placeholder :: pattern) (c :: text) = some ((c :: first) :: others) := by
  rw [captures?_placeholder_cons, found]

/-- A hole in front finds nothing only if it can take up no part such that the pattern
behind it matches the rest. -/
theorem captures?_hole_eq_none_iff (isHole : isHole hole = true) :
    captures? (hole :: pattern) text = none ↔ ∀ part rest, text = part ++ rest →
      hole.Admits part → captures? pattern rest = none := by
  cases hole with
  | literal => cases isHole
  | wildcard =>
      rw [captures?_wildcard, longest_eq_none_iff]
      exact forall₂_congr fun part rest => by simp [Piece.Admits]
  | placeholder =>
      rcases text with _ | ⟨c, text⟩
      · refine ⟨fun _ part rest cut admits => ?_, fun _ => rfl⟩
        exact absurd (List.append_eq_nil_iff.mp cut.symm).1 admits
      -- The first character is taken in any case, and the search goes on behind it.
      have behind : (∀ part rest, c :: text = part ++ rest → part ≠ [] →
          captures? pattern rest = none) ↔ longest (captures? pattern) text = none := by
        rw [longest_eq_none_iff]
        constructor
        · intro each front after cut
          exact each (c :: front) after (by rw [cut]; rfl) (List.cons_ne_nil _ _)
        · intro each part rest cut nonempty
          rcases part with _ | ⟨d, part⟩
          · exact absurd rfl nonempty
          · exact each part rest (List.cons_eq_cons.mp cut).2
      refine Iff.trans ?_ behind.symm
      cases found : longest (captures? pattern) text with
      | none => simp [captures?_placeholder_cons_of_none found]
      | some parts =>
          rcases exists_cons_of_longest found with ⟨first, others, equal⟩
          simp [captures?_placeholder_cons_of_some (equal ▸ found)]

/-- A hole in front takes up the longest part such that the pattern behind it matches
the rest. -/
theorem exists_of_captures?_hole (isHole : isHole hole = true) {parts : List Text}
    (found : captures? (hole :: pattern) text = some parts) :
    ∃ part others rest, parts = part :: others ∧ text = part ++ rest ∧ hole.Admits part ∧
      captures? pattern rest = some others ∧
      ∀ longer rest', text = longer ++ rest' → part.length < longer.length →
        captures? pattern rest' = none := by
  cases hole with
  | literal => cases isHole
  | wildcard =>
      rw [captures?_wildcard] at found
      rcases exists_cons_of_longest found with ⟨first, others, equal⟩
      rcases exists_of_longest (equal ▸ found) with ⟨rest, cut, matched, none⟩
      exact ⟨first, others, rest, equal, cut, trivial, matched, none⟩
  | placeholder =>
      rcases text with _ | ⟨c, text⟩
      · cases found
      cases behind : longest (captures? pattern) text with
      | none =>
          rw [captures?_placeholder_cons_of_none behind] at found
          cases found
      | some tail =>
          rcases exists_cons_of_longest behind with ⟨first, others, equal⟩
          subst equal
          rw [captures?_placeholder_cons_of_some behind] at found
          rcases exists_of_longest behind with ⟨rest, cut, matched, none⟩
          refine ⟨c :: first, others, rest, (Option.some.inj found).symm, by rw [cut]; rfl,
            List.cons_ne_nil _ _, matched, fun longer rest' cut' more => ?_⟩
          rcases longer with _ | ⟨d, longer⟩
          · exact absurd more (Nat.not_lt_zero _)
          · exact none longer rest' (List.cons_eq_cons.mp cut').2
              (Nat.lt_of_succ_lt_succ more)

end Hole

/-! What any pattern captures. -/

theorem captures?_literal_cons (c d : Char) (pattern : Pattern) (rest : Text) :
    captures? (.literal c :: pattern) (d :: rest) =
      if c = d then captures? pattern rest else none := rfl

theorem captures?_eq_none_iff {pattern : Pattern} {text : Text} :
    captures? pattern text = none ↔ ∀ parts, ¬Divides pattern parts text := by
  induction pattern generalizing text with
  | nil =>
      simp only [divides_nil_iff]
      rcases text with _ | ⟨d, rest⟩
      · have found : captures? [] [] = some [] := rfl
        simp [found]
      · have missing : captures? [] (d :: rest) = none := rfl
        simp [missing]
  | cons piece pattern induction =>
      by_cases isHole : isHole piece = true
      · simp only [captures?_hole_eq_none_iff isHole, divides_hole_iff isHole, induction]
        constructor
        · rintro each _ ⟨part, others, rest, _, cut, admits, divides⟩
          exact each part rest cut admits others divides
        · intro each part rest cut admits others divides
          exact each _ ⟨part, others, rest, rfl, cut, admits, divides⟩
      · cases piece with
        | literal c =>
            simp only [divides_literal_iff]
            rcases text with _ | ⟨d, rest⟩
            · have missing : captures? (.literal c :: pattern) [] = none := rfl
              simp [missing]
            rw [captures?_literal_cons]
            split_ifs with same
            · simp [induction, same]
            · simp [Ne.symm same]
        | _ => exact absurd rfl isHole

theorem greedy_of_captures? {pattern : Pattern} {parts : List Text} {text : Text}
    (found : captures? pattern text = some parts) : Greedy pattern parts text := by
  induction pattern generalizing parts text with
  | nil =>
      rcases text with _ | ⟨d, rest⟩
      · have nothing := Option.some.inj found
        subst nothing
        refine ⟨divides_nil_iff.mpr ⟨rfl, rfl⟩, fun others divides => ?_⟩
        rw [(divides_nil_iff.mp divides).1]
      · cases found
  | cons piece pattern induction =>
      by_cases isHole : isHole piece = true
      · rcases exists_of_captures?_hole isHole found with
          ⟨part, others, rest, equal, cut, admits, matched, none⟩
        rcases induction matched with ⟨divides, largest⟩
        subst equal
        refine ⟨(divides_hole_iff isHole).mpr
          ⟨part, others, rest, rfl, cut, admits, divides⟩, fun parts' divides' => ?_⟩
        rcases (divides_hole_iff isHole).mp divides' with
          ⟨part', others', rest', equal', cut', _, dividesRest⟩
        subst equal'
        rw [List.map_cons, List.map_cons]
        -- A longer part leaves a rest that the pattern behind the hole does not match.
        rcases Nat.lt_trichotomy part'.length part.length with shorter | same | longer
        · exact le_of_lt (.rel shorter)
        · have aligned := List.append_inj (cut'.symm.trans cut) same
          rw [same]
          exact List.cons_le_cons _ (largest others' (aligned.2 ▸ dividesRest))
        · have missing := none part' rest' cut' longer
          exact absurd dividesRest (captures?_eq_none_iff.mp missing others')
      · cases piece with
        | literal c =>
            rcases text with _ | ⟨d, rest⟩
            · cases found
            rw [captures?_literal_cons] at found
            split_ifs at found with same
            rcases induction found with ⟨divides, largest⟩
            refine ⟨divides_literal_iff.mpr ⟨rest, by rw [same], divides⟩,
              fun others divides' => ?_⟩
            rcases divides_literal_iff.mp divides' with ⟨rest', equal, dividesRest⟩
            exact largest others ((List.cons_eq_cons.mp equal).2 ▸ dividesRest)
        | _ => exact absurd rfl isHole

theorem captures?_eq_some_iff {pattern : Pattern} {parts : List Text} {text : Text} :
    captures? pattern text = some parts ↔ Greedy pattern parts text := by
  refine ⟨greedy_of_captures?, fun greedy => ?_⟩
  cases found : captures? pattern text with
  | none => exact absurd greedy.1 (captures?_eq_none_iff.mp found parts)
  | some others =>
      have captured := greedy_of_captures? found
      have same := le_antisymm (greedy.2 others captured.1) (captured.2 parts greedy.1)
      rw [captured.1.eq_of_lengths greedy.1 same]

theorem matchesText_iff {written text : Text} : matchesText written text = true ↔
    ∃ parts, Divides (ofText written) parts (Text.normalize text) := by
  unfold matchesText
  rw [Option.isSome_iff_ne_none, Ne, captures?_eq_none_iff]
  simp only [not_forall, not_not]

/-- A written pattern is read in one way. It matches a text if and only if the text can
be divided by it, and what it captures is the division with the largest list of lengths,
one part for each of its holes. -/
theorem matches_and_captures_greedily (written text : Text) :
    ∃ pattern, (∀ other, Reads (Text.normalize written) other ↔ other = pattern) ∧
      holes (ofText written) = (pattern.filter isHole).length ∧
      (matchesText written text = true ↔
        ∃ parts, Divides pattern parts (Text.normalize text)) ∧
      ∀ parts, captures? (ofText written) (Text.normalize text) = some parts ↔
        Divides pattern parts (Text.normalize text) ∧
          ∀ others, Divides pattern others (Text.normalize text) →
            others.map List.length ≤ parts.map List.length := by
  refine ⟨ofText written, fun other => reads_iff, ?_, matchesText_iff, fun parts => ?_⟩
  · exact List.countP_eq_length_filter
  · exact captures?_eq_some_iff

/-- The first hole takes all it can, and the last one is left with one character. -/
example : captures? (ofText "\x7ba\x7d*\x7bb\x7d") "xyz" =
    some (["xy", "", "z"] : List Text) := by decide

end Pattern

end RobotRules
