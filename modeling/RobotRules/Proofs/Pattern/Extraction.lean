import RobotRules.Proofs.Pattern.Capture

/-! What is extracted. A text and an index give something exactly where the pattern matches
and has a hole of that index. For an ASCII text it is the capture in the spelling of the
text: in ASCII the lower case is made character by character, so what was captured of the
lower case is the lower case of a stretch of the text, and the search cannot miss it. -/

namespace RobotRules

namespace Character

variable {c : Char} (ascii : c.toNat < 128)

include ascii

theorem lower_of_ascii : lower c = c.toLower := if_pos ascii

theorem toNat_toLower_lt : c.toLower.toNat < 128 :=
  ascii_cases (P := fun c => c.toLower.toNat < 128) (by decide) ascii

theorem toLower_toLower : c.toLower.toLower = c.toLower :=
  ascii_cases (P := fun c => c.toLower.toLower = c.toLower) (by decide) ascii

/-- In ASCII, characters that are alike have the same lower case. -/
theorem fold_of_ascii : fold c = c.toLower := by
  unfold fold
  dsimp only
  rw [lower_of_ascii ascii, if_pos (toNat_toLower_lt ascii)]

theorem isBlank_toLower : isBlank c.toLower = isBlank c := by
  rw [← lower_of_ascii ascii, isBlank_lower]

end Character

namespace Text

/-- Whether the text consists of ASCII characters. -/
def IsAscii (text : Text) : Prop := ∀ c ∈ text, c.toNat < 128

instance (text : Text) : Decidable text.IsAscii :=
  List.decidableBAll (fun c : Char => c.toNat < 128) text

theorem IsAscii.of_infix {part text : Text} (ascii : text.IsAscii) (within : part <:+: text) :
    part.IsAscii :=
  fun c member => ascii c (within.subset member)

/-- The sigma and the dotted capital are not ASCII, so the neighbours of a character do not
matter. -/
theorem lowerFrom_of_ascii {text : Text} (ascii : text.IsAscii) (before : Text) :
    lowerFrom before text = text.map Char.toLower := by
  induction text generalizing before with
  | nil => rfl
  | cons c rest induction =>
      rcases List.forall_mem_cons.mp ascii with ⟨first, others⟩
      have noDottedI : c ≠ 'İ' := by
        rintro rfl
        exact absurd first (by decide)
      have noSigma : c ≠ 'Σ' := by
        rintro rfl
        exact absurd first (by decide)
      rw [lowerFrom, lowerBetween, if_neg noDottedI, if_neg noSigma, induction others,
        Character.lower_of_ascii first]
      rfl

theorem lower_of_ascii {text : Text} (ascii : text.IsAscii) :
    lower text = text.map Char.toLower :=
  lowerFrom_of_ascii ascii []

theorem trimStart_map_toLower {text : Text} (ascii : text.IsAscii) :
    trimStart (text.map Char.toLower) = (trimStart text).map Char.toLower := by
  unfold trimStart
  rw [List.dropWhile_map]
  congr 1
  induction text with
  | nil => rfl
  | cons c rest induction =>
      rcases List.forall_mem_cons.mp ascii with ⟨first, others⟩
      rw [List.dropWhile_cons, List.dropWhile_cons, Function.comp_apply,
        Character.isBlank_toLower first, induction others]

theorem trimEnd_map_toLower {text : Text} (ascii : text.IsAscii) :
    trimEnd (text.map Char.toLower) = (trimEnd text).map Char.toLower := by
  have reversed : IsAscii text.reverse := fun c member => ascii c (List.mem_reverse.mp member)
  unfold trimEnd
  rw [← List.map_reverse, trimStart_map_toLower reversed, List.map_reverse]

theorem normalize_of_ascii {text : Text} (ascii : text.IsAscii) :
    normalize text = (trim text).map Char.toLower := by
  have start : (trimStart text).IsAscii := ascii.of_infix (List.dropWhile_suffix _).isInfix
  unfold normalize trim
  rw [lower_of_ascii ascii, trimStart_map_toLower ascii, trimEnd_map_toLower start]

theorem infix_trim (text : Text) : trim text <:+: text := by
  rcases exists_trim text with ⟨before, after, _, _, equal⟩
  exact ⟨before, after, equal.symm⟩

/-! The search without regard to case. -/

/-- Two texts that are alike when case does not matter. -/
def Alike (left right : Text) : Prop := left.map Character.fold = right.map Character.fold

theorem frontLike?_eq_some_iff {part text found : Text} :
    frontLike? part text = some found ↔ found <+: text ∧ Alike found part := by
  unfold Alike
  induction part generalizing text found with
  | nil =>
      rw [frontLike?, List.map_nil, List.map_eq_nil_iff, Option.some.injEq]
      constructor
      · rintro rfl
        exact ⟨List.nil_prefix, rfl⟩
      · exact fun nothing => nothing.2.symm
  | cons p part induction =>
      rcases text with _ | ⟨c, text⟩
      · rw [frontLike?, List.prefix_nil]
        simp +contextual
      rw [frontLike?]
      split_ifs with same
      · rw [Option.map_eq_some_iff]
        constructor
        · rintro ⟨rest, restLike, rfl⟩
          rcases induction.mp restLike with ⟨front, alike⟩
          exact ⟨List.cons_prefix_cons.mpr ⟨rfl, front⟩, by rw [List.map_cons, alike, ← same]; rfl⟩
        · rintro ⟨front, alike⟩
          rcases found with _ | ⟨d, rest⟩
          · cases alike
          rcases List.cons_prefix_cons.mp front with ⟨rfl, restFront⟩
          exact ⟨rest, induction.mpr ⟨restFront, (List.cons.inj alike).2⟩, rfl⟩
      · refine iff_of_false (by simp) ?_
        rintro ⟨front, alike⟩
        rcases found with _ | ⟨d, rest⟩
        · cases alike
        rcases List.cons_prefix_cons.mp front with ⟨rfl, _⟩
        exact same (List.cons.inj alike).1.symm

/-- What is found is a stretch of the text that is like the part. -/
theorem alike_of_findLike? {part text found : Text} (like : findLike? part text = some found) :
    found <:+: text ∧ Alike found part := by
  induction text with
  | nil =>
      rcases frontLike?_eq_some_iff.mp like with ⟨front, alike⟩
      exact ⟨front.isInfix, alike⟩
  | cons c rest induction =>
      rw [findLike?] at like
      split at like
      · rename_i front
        rw [Option.some.inj like] at front
        rcases frontLike?_eq_some_iff.mp front with ⟨isFront, alike⟩
        exact ⟨isFront.isInfix, alike⟩
      · rcases induction like with ⟨within, alike⟩
        exact ⟨within.trans (List.suffix_cons c rest).isInfix, alike⟩

/-- A stretch that is like the part is not missed. -/
theorem exists_findLike? {part text stretch : Text} (within : stretch <:+: text)
    (alike : Alike stretch part) : ∃ found, findLike? part text = some found := by
  induction text with
  | nil =>
      rw [List.infix_nil] at within
      exact ⟨[], frontLike?_eq_some_iff.mpr ⟨List.nil_prefix, within ▸ alike⟩⟩
  | cons c rest induction =>
      rw [findLike?]
      split
      · exact ⟨_, rfl⟩
      · rename_i missing
        rcases List.infix_cons_iff.mp within with front | later
        · rw [frontLike?_eq_some_iff.mpr ⟨front, alike⟩] at missing
          cases missing
        · exact induction later

/-- In ASCII, what is looked up in lower case is found, in the spelling of the text. -/
theorem exists_findLike?_of_ascii {part text : Text} (ascii : text.IsAscii)
    (within : part <:+: text.map Char.toLower) :
    ∃ found, findLike? part text = some found ∧ found <:+: text ∧ lower found = part := by
  rcases List.infix_map_iff.mp within with ⟨stretch, inText, rfl⟩
  have fold_eq : ∀ {part : Text}, part.IsAscii →
      part.map Character.fold = part.map Char.toLower := fun partAscii =>
    List.map_congr_left fun c member => Character.fold_of_ascii (partAscii c member)
  have stretchAscii := ascii.of_infix inText
  have lowered : (stretch.map Char.toLower).map Character.fold = stretch.map Char.toLower := by
    rw [List.map_map]
    refine List.map_congr_left fun c member => ?_
    have isAscii := stretchAscii c member
    rw [Function.comp_apply, Character.fold_of_ascii (Character.toNat_toLower_lt isAscii),
      Character.toLower_toLower isAscii]
  have alike : Alike stretch (stretch.map Char.toLower) := (fold_eq stretchAscii).trans lowered.symm
  rcases exists_findLike? inText alike with ⟨found, like⟩
  rcases alike_of_findLike? like with ⟨foundIn, foundAlike⟩
  have foundAscii := ascii.of_infix foundIn
  refine ⟨found, like, foundIn, ?_⟩
  rw [lower_of_ascii foundAscii, ← fold_eq foundAscii]
  exact foundAlike.trans lowered

end Text

namespace Pattern

/-- What is captured of a text is a stretch of it. -/
theorem infix_of_divides {pattern : Pattern} {parts : List Text} {text part : Text}
    (divides : Divides pattern parts text) (member : part ∈ parts) : part <:+: text := by
  induction pattern generalizing parts text with
  | nil =>
      rw [(divides_nil_iff.mp divides).1] at member
      cases member
  | cons piece pattern induction =>
      by_cases hole : isHole piece = true
      · rcases (divides_hole_iff hole).mp divides with
          ⟨first, others, rest, rfl, rfl, _, dividesRest⟩
        rcases List.mem_cons.mp member with rfl | later
        · exact (List.prefix_append _ rest).isInfix
        · exact (induction dividesRest later).trans (List.suffix_append first rest).isInfix
      · cases piece with
        | literal c =>
            rcases divides_literal_iff.mp divides with ⟨rest, rfl, dividesRest⟩
            exact (induction dividesRest member).trans (List.suffix_cons c rest).isInfix
        | _ => exact absurd rfl hole

/-- A match captures one part for each hole. -/
theorem length_of_captures? {pattern : Pattern} {text : Text} {parts : List Text}
    (found : captures? pattern text = some parts) : parts.length = holes pattern := by
  rw [holes, List.countP_eq_length_filter]
  exact (greedy_of_captures? found).1.admitted.length_eq.symm

section

variable {written text : Text} {index : Int}

theorem extract?_of_not_matches
    (missing : captures? (ofText written) (Text.normalize text) = none) :
    extract? written text index = none := by
  unfold extract?
  rw [missing]
  rfl

theorem extract?_of_neg {parts : List Text}
    (found : captures? (ofText written) (Text.normalize text) = some parts) (negative : index < 0) :
    extract? written text index = none := by
  unfold extract?
  rw [found]
  simp [negative]

theorem extract?_of_nonneg {parts : List Text}
    (found : captures? (ofText written) (Text.normalize text) = some parts)
    (nonnegative : 0 ≤ index) :
    extract? written text index = parts[index.toNat]?.map fun part =>
      (Text.findLike? (Text.trim part) (Text.trim text)).getD (Text.trim part) := by
  have atLeast : ¬index < 0 := Int.not_lt.mpr nonnegative
  unfold extract?
  rw [found, Option.map_eq_bind]
  simp only [Option.bind_eq_bind, Option.bind_some, if_neg atLeast]
  rfl

end

theorem extract?_eq_none_iff {written text : Text} {index : Int} :
    extract? written text index = none ↔ matchesText written text = false ∨ index < 0 ∨
      (holes (ofText written) : Int) ≤ index := by
  unfold matchesText
  cases found : captures? (ofText written) (Text.normalize text) with
  | none => simp [extract?_of_not_matches found]
  | some parts =>
      rcases Int.lt_or_le index 0 with negative | nonnegative
      · simp [extract?_of_neg found negative, negative]
      · rw [extract?_of_nonneg found nonnegative, Option.map_eq_none_iff,
          List.getElem?_eq_none_iff, length_of_captures? found]
        simp only [Option.isSome_some, Bool.true_eq_false, false_or]
        omega

/-- Nothing is extracted exactly where the pattern does not match the text, or has no hole of
that index. What is extracted of an ASCII text is a stretch of the trimmed text, and its lower
case is what the hole captured of the text in lower case, trimmed. -/
theorem extract?_agrees (written text : Text) (index : Int) :
    (extract? written text index = none ↔ matchesText written text = false ∨ index < 0 ∨
      (holes (ofText written) : Int) ≤ index) ∧
    (text.IsAscii → ∀ extracted, extract? written text index = some extracted →
      extracted <:+: Text.trim text ∧
        ∃ parts part, captures? (ofText written) (Text.normalize text) = some parts ∧
          0 ≤ index ∧ parts[index.toNat]? = some part ∧
          Text.lower extracted = Text.trim part) := by
  refine ⟨extract?_eq_none_iff, fun ascii extracted given => ?_⟩
  have present : ¬(matchesText written text = false ∨ index < 0 ∨
      (holes (ofText written) : Int) ≤ index) := fun absent => by
    rw [extract?_eq_none_iff.mpr absent] at given
    cases given
  have nonnegative : 0 ≤ index := by omega
  have matched : matchesText written text = true := by simpa using fun no => present (.inl no)
  rcases Option.isSome_iff_exists.mp matched with ⟨parts, found⟩
  rw [extract?_of_nonneg found nonnegative, Option.map_eq_some_iff] at given
  rcases given with ⟨part, atIndex, rfl⟩
  have within : Text.trim part <:+: (Text.trim text).map Char.toLower := by
    rw [← Text.normalize_of_ascii ascii]
    exact (Text.infix_trim part).trans
      (infix_of_divides (greedy_of_captures? found).1 (List.mem_of_getElem? atIndex))
  rcases Text.exists_findLike?_of_ascii (ascii.of_infix (Text.infix_trim text)) within with
    ⟨spelled, like, inText, lowered⟩
  rw [like, Option.getD_some]
  exact ⟨inText, parts, part, found, nonnegative, atIndex, lowered⟩

/-- What is captured occurs before in other letters. -/
theorem extract?_agrees_repeated :
    let written : Text := "say \x7bwhat\x7d, *"
    let text : Text := " Say SAY , Bob "
    let extracted : Text := "Say"
    text.IsAscii ∧ extract? written text 0 = some extracted ∧ extracted <:+: Text.trim text ∧
      ∃ parts part, captures? (ofText written) (Text.normalize text) = some parts ∧
        0 ≤ (0 : Int) ∧ parts[(0 : Int).toNat]? = some part ∧
        Text.lower extracted = Text.trim part := by
  intro written text extracted
  have ascii : text.IsAscii := by decide
  have given : extract? written text 0 = some extracted := by decide
  exact ⟨ascii, given, (extract?_agrees written text 0).2 ascii extracted given⟩

end Pattern

end RobotRules
