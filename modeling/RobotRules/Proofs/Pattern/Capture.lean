import RobotRules.Proofs.Pattern.Division
import RobotRules.Proofs.Text

/-! What a name at the end of a pattern captures is not blank: it reaches to the end of the
trimmed text, where something visible stands, and what reads like it when case does not
matter is not blank either. -/

namespace RobotRules

namespace Character

theorem isBlank_ofNat_iff {code : Nat} :
    isBlank (Char.ofNat code) = true ↔ code ∈ blankCodes := by
  constructor
  · intro blank
    have point := mem_blankCodes blank
    rw [toNat_ofNat] at point
    split_ifs at point
    · exact point
    · exact absurd point (by decide)
  · have each : ∀ code ∈ blankCodes, isBlank (Char.ofNat code) = true := by decide
    exact each code

/-- White space is not mapped, and nothing is mapped to it. -/
private theorem lowerRuns_visible : lowerRuns.toList.all (fun (first, last, _, target) =>
    blankCodes.all fun code => (code < first || last < code) &&
      (code < target || target + (last - first) < code)) = true := by
  decide +kernel

private theorem mem_blankCodes_mapCase_iff {code : Nat} :
    mapCase lowerRuns code ∈ blankCodes ↔ code ∈ blankCodes := by
  unfold mapCase
  split
  · rename_i first last stride target found
    have inTable := Array.mem_of_find?_eq_some found
    have fits := Array.find?_some found
    have row := List.all_eq_true.mp lowerRuns_visible _ (Array.mem_toList_iff.mpr inTable)
    simp only [Bool.and_eq_true, decide_eq_true_eq] at fits
    constructor
    · intro blank
      have outside := List.all_eq_true.mp row _ blank
      simp only [Bool.and_eq_true, Bool.or_eq_true, decide_eq_true_eq] at outside
      omega
    · intro blank
      have outside := List.all_eq_true.mp row _ blank
      simp only [Bool.and_eq_true, Bool.or_eq_true, decide_eq_true_eq] at outside
      omega
  · exact Iff.rfl

theorem isBlank_lower (c : Char) : isBlank (lower c) = isBlank c := by
  unfold lower
  split_ifs with ascii
  · exact ascii_cases (P := fun c => isBlank c.toLower = isBlank c) (by decide) ascii
  · rw [Bool.eq_iff_iff, isBlank_ofNat_iff, mem_blankCodes_mapCase_iff, ← isBlank_ofNat_iff,
      Char.ofNat_toNat]

private theorem caseFamilies_visible : caseFamilies.all (fun family =>
    family.all fun code => !isBlank (Char.ofNat code)) = true := by
  decide

/-- White space is like nothing else when case does not matter. -/
theorem isBlank_fold (c : Char) : isBlank (fold c) = isBlank c := by
  unfold fold
  dsimp only
  split_ifs
  · exact isBlank_lower c
  · split
    · rename_i representative others found
      have family := List.all_eq_true.mp caseFamilies_visible _ (List.mem_of_find?_eq_some found)
      have visible : ∀ code ∈ representative :: others, isBlank (Char.ofNat code) = false := by
        simpa using family
      have among := List.find?_some found
      have small := visible _ (List.contains_iff_mem.mp among)
      rw [Char.ofNat_toNat, isBlank_lower] at small
      rw [small]
      exact visible representative (by simp)
    · exact isBlank_lower c

end Character

namespace Text

theorem isBlank_frontLike? {part text found : Text} (like : frontLike? part text = some found) :
    isBlank found = isBlank part := by
  induction part generalizing text found with
  | nil =>
      rw [frontLike?] at like
      rw [← Option.some.inj like]
  | cons p part induction =>
      rcases text with _ | ⟨c, text⟩
      · cases like
      rw [frontLike?] at like
      split_ifs at like with same
      rcases Option.map_eq_some_iff.mp like with ⟨rest, restLike, equal⟩
      have first : Character.isBlank c = Character.isBlank p := by
        rw [← Character.isBlank_fold c, ← same, Character.isBlank_fold]
      have others := induction restLike
      unfold isBlank at others ⊢
      rw [← equal, List.all_cons, List.all_cons, first, others]

/-- What reads like a text is blank only if the text is. -/
theorem isBlank_findLike? {part text found : Text} (like : findLike? part text = some found) :
    isBlank found = isBlank part := by
  induction text with
  | nil => exact isBlank_frontLike? like
  | cons c rest induction =>
      unfold findLike? at like
      split at like
      · rename_i front isFront
        exact isBlank_frontLike? (like ▸ isFront)
      · exact induction like

theorem not_isBlank_of_suffix_trim {part text : Text} (nonempty : part ≠ [])
    (within : part <:+ trim text) : ¬isBlank part = true := by
  rcases within with ⟨front, whole⟩
  intro blank
  have last : (trim text).getLast? = some (part.getLast nonempty) := by
    rw [← whole, List.getLast?_append, List.getLast?_eq_some_getLast nonempty, Option.some_or]
  have inPart := mem_isBlank blank (List.getLast_mem nonempty)
  rw [getLast?_trim last] at inPart
  cases inPart

end Text

namespace Pattern

/-- A name behind plain characters takes up all that comes after them. -/
theorem exists_of_divides_name {front : Text} {parts : List Text} {text : Text}
    (divides : Divides (front.map .literal ++ [.placeholder]) parts text) :
    ∃ rest, rest ≠ [] ∧ parts = [rest] ∧ text = front ++ rest := by
  induction front generalizing text with
  | nil =>
      rcases (divides_hole_iff rfl).mp divides with
        ⟨part, others, rest, isParts, whole, nonempty, dividesRest⟩
      rcases divides_nil_iff.mp dividesRest with ⟨noOthers, noRest⟩
      rw [noRest, List.append_nil] at whole
      exact ⟨part, nonempty, by rw [isParts, noOthers], whole⟩
  | cons c front induction =>
      rcases divides_literal_iff.mp divides with ⟨behind, isText, dividesBehind⟩
      rcases induction dividesBehind with ⟨rest, nonempty, isParts, whole⟩
      exact ⟨rest, nonempty, isParts, by rw [isText, whole, List.cons_append]⟩

/-- A text that matches such a pattern gives a name that is not blank. -/
theorem exists_extract?_of_matchesText {written front text : Text}
    (shape : ofText written = front.map .literal ++ [.placeholder])
    (matched : matchesText written text = true) :
    ∃ name, extract? written text 0 = some name ∧ ¬Text.isBlank name = true := by
  unfold matchesText at matched
  rcases Option.isSome_iff_exists.mp matched with ⟨parts, found⟩
  rcases exists_of_divides_name (shape ▸ (greedy_of_captures? found).1) with
    ⟨rest, nonempty, isRest, whole⟩
  have visible : ¬Text.isBlank (Text.trim rest) = true := by
    rw [← Text.trim_eq_nil_iff, Text.trim_trim, Text.trim_eq_nil_iff]
    exact Text.not_isBlank_of_suffix_trim nonempty ⟨front, whole.symm⟩
  refine ⟨(Text.findLike? (Text.trim rest) (Text.trim text)).getD (Text.trim rest), ?_, ?_⟩
  · simp [extract?, found, isRest]
  · cases like : Text.findLike? (Text.trim rest) (Text.trim text) with
    | none => exact visible
    | some name =>
        rw [Option.getD_some, Text.isBlank_findLike? like]
        exact visible

end Pattern

end RobotRules
