import RobotRules.Proofs.Pattern.Extraction

/-! The spelling of what is extracted. What a hole captures of the lower case stands at a place
of the text, and has a spelling there. The extraction does not go by the place: it takes the
first stretch of the text that reads like the capture. So the spelling is that of the place
exactly where that first stretch is spelled so. -/

namespace RobotRules

namespace Text

/-- The characters from a place on, `length` many of them or as many as there are. -/
def stretch (start length : Nat) (text : Text) : Text := (text.drop start).take length

theorem stretch_succ_cons (start length : Nat) (c : Char) (rest : Text) :
    stretch (start + 1) length (c :: rest) = stretch start length rest := rfl

theorem stretch_zero_append (part rest : Text) :
    stretch 0 part.length (part ++ rest) = part := List.take_left

theorem stretch_append (front : Text) (start length : Nat) (rest : Text) :
    stretch (start + front.length) length (front ++ rest) = stretch start length rest := by
  rw [stretch, stretch, Nat.add_comm, ← List.drop_drop, List.drop_left]

theorem map_stretch (f : Char → Char) (start length : Nat) (text : Text) :
    (stretch start length text).map f = stretch start length (text.map f) := by
  rw [stretch, stretch, List.map_take, List.map_drop]

theorem infix_stretch (start length : Nat) (text : Text) : stretch start length text <:+: text :=
  (List.take_prefix _ _).isInfix.trans (List.drop_suffix _ _).isInfix

theorem Alike.length_eq {left right : Text} (alike : Alike left right) :
    left.length = right.length := by
  simpa using congrArg List.length alike

/-- The first place at which a text reads like `part`. -/
structure FirstLike (part text : Text) (start : Nat) : Prop where
  like : Alike (stretch start part.length text) part
  first : ∀ earlier < start, ¬Alike (stretch earlier part.length text) part

section

variable {part text found : Text}

theorem frontLike?_eq_take : frontLike? part text = some found ↔
    Alike (text.take part.length) part ∧ found = text.take part.length := by
  rw [frontLike?_eq_some_iff]
  constructor
  · rintro ⟨front, alike⟩
    have same : found = text.take part.length := by
      rw [← alike.length_eq]
      exact List.prefix_iff_eq_take.mp front
    exact ⟨same ▸ alike, same⟩
  · rintro ⟨alike, rfl⟩
    exact ⟨List.take_prefix _ _, alike⟩

theorem firstLike_zero_iff : FirstLike part text 0 ↔ Alike (text.take part.length) part :=
  ⟨FirstLike.like, fun like => ⟨like, nofun⟩⟩

theorem firstLike_succ_cons_iff {c : Char} {start : Nat} : FirstLike part (c :: text) (start + 1) ↔
    ¬Alike ((c :: text).take part.length) part ∧ FirstLike part text start := by
  constructor
  · rintro ⟨like, first⟩
    exact ⟨first 0 start.succ_pos, like, fun earlier before =>
      first (earlier + 1) (Nat.succ_lt_succ before)⟩
  · rintro ⟨missing, like, first⟩
    refine ⟨like, fun earlier before => ?_⟩
    cases earlier with
    | zero => exact missing
    | succ earlier => exact first earlier (Nat.lt_of_succ_lt_succ before)

/-- What is found stands at the first place that reads like the part. -/
theorem findLike?_eq_some_iff : findLike? part text = some found ↔
    ∃ start, FirstLike part text start ∧ found = stretch start part.length text := by
  induction text with
  | nil =>
      rw [findLike?, frontLike?_eq_take]
      constructor
      · rintro ⟨alike, rfl⟩
        exact ⟨0, firstLike_zero_iff.mpr alike, rfl⟩
      · rintro ⟨start, ⟨like, _⟩, rfl⟩
        rw [stretch, List.drop_nil] at like ⊢
        exact ⟨like, rfl⟩
  | cons c rest induction =>
      rw [findLike?]
      split
      · rename_i front isFront
        rcases frontLike?_eq_take.mp isFront with ⟨alike, isTake⟩
        constructor
        · rintro ⟨⟩
          exact ⟨0, firstLike_zero_iff.mpr alike, isTake⟩
        · rintro ⟨start, firstLike, rfl⟩
          cases start with
          | zero => rw [isTake]; rfl
          | succ start => exact absurd alike (firstLike_succ_cons_iff.mp firstLike).1
      · rename_i missing
        have apart : ¬Alike ((c :: rest).take part.length) part := fun alike => by
          rw [frontLike?_eq_take.mpr ⟨alike, rfl⟩] at missing
          cases missing
        rw [induction]
        constructor
        · rintro ⟨start, firstLike, isFound⟩
          exact ⟨start + 1, firstLike_succ_cons_iff.mpr ⟨apart, firstLike⟩, isFound⟩
        · rintro ⟨start, firstLike, isFound⟩
          cases start with
          | zero => exact absurd firstLike.like apart
          | succ start => exact ⟨start, (firstLike_succ_cons_iff.mp firstLike).2, isFound⟩

/-- Parts that are alike are found at the same places. -/
theorem FirstLike.of_alike {other : Text} {start : Nat} (firstLike : FirstLike part text start)
    (alike : Alike part other) : FirstLike other text start := by
  rcases firstLike with ⟨like, first⟩
  rw [alike.length_eq] at like first
  exact ⟨like.trans alike, fun earlier before also => first earlier before (also.trans alike.symm)⟩

end

/-- In ASCII, a text is like its lower case. -/
theorem alike_map_toLower {text : Text} (ascii : text.IsAscii) :
    Alike text (text.map Char.toLower) := by
  unfold Alike
  rw [List.map_map]
  refine List.map_congr_left fun c member => ?_
  have isAscii := ascii c member
  rw [Function.comp_apply, Character.fold_of_ascii isAscii,
    Character.fold_of_ascii (Character.toNat_toLower_lt isAscii),
    Character.toLower_toLower isAscii]

theorem trim_map_toLower {text : Text} (ascii : text.IsAscii) :
    trim (text.map Char.toLower) = (trim text).map Char.toLower := by
  have start : (trimStart text).IsAscii := ascii.of_infix (List.dropWhile_suffix _).isInfix
  rw [trim, trim, trimStart_map_toLower ascii, trimEnd_map_toLower start]

end Text

namespace Pattern

open Text (stretch stretch_succ_cons stretch_zero_append stretch_append FirstLike)

/-- The places of the holes in a text that the parts divide. -/
def starts : Pattern → (parts : List Text) → List Nat
  | .literal _ :: pattern, parts => (starts pattern parts).map (· + 1)
  | .placeholder :: pattern, part :: parts | .wildcard :: pattern, part :: parts =>
    0 :: (starts pattern parts).map (· + part.length)
  | _, _ => []

/-- What a hole captured, as the text spells it at the place of the hole. -/
def spelled? (written text : Text) (index : Nat) : Option Text := do
  let parts ← captures? (ofText written) (Text.normalize text)
  let start ← (starts (ofText written) parts)[index]?
  let part ← parts[index]?
  return Text.trim (stretch start part.length (Text.trim text))

example : spelled? "say \x7bwhat\x7d, *" " Say SAY , Bob " 0 = some "SAY" := by decide

/-- Each part stands at its place. -/
theorem stretch_starts {pattern : Pattern} {parts : List Text} {text : Text}
    (divides : Divides pattern parts text) :
    List.Forall₂ (fun start part => stretch start part.length text = part)
      (starts pattern parts) parts := by
  induction pattern generalizing parts text with
  | nil =>
      rw [(divides_nil_iff.mp divides).1]
      exact .nil
  | cons piece pattern induction =>
      by_cases hole : isHole piece = true
      · rcases (divides_hole_iff hole).mp divides with
          ⟨part, others, rest, rfl, rfl, _, dividesRest⟩
        have first : starts (piece :: pattern) (part :: others) =
            0 :: (starts pattern others).map (· + part.length) := by
          cases piece with
          | literal => cases hole
          | _ => rfl
        rw [first]
        refine .cons (stretch_zero_append part rest) (List.forall₂_map_left_iff.mpr ?_)
        exact (induction dividesRest).imp fun start other stands => by
          rw [stretch_append, stands]
      · cases piece with
        | literal c =>
            rcases divides_literal_iff.mp divides with ⟨rest, rfl, dividesRest⟩
            refine List.forall₂_map_left_iff.mpr ?_
            exact (induction dividesRest).imp fun start other stands => stands
        | _ => exact absurd rfl hole

variable {written text : Text} {index : Nat}

/-- A hole of a pattern that matches captured something, which has a spelling. Its lower case is
what is looked up in the text. -/
theorem exists_spelled? (ascii : text.IsAscii) (matched : matchesText written text = true)
    (inside : index < holes (ofText written)) :
    ∃ own, spelled? written text index = some own ∧ own <:+: Text.trim text ∧
      extract? written text index =
        some ((Text.findLike? (own.map Char.toLower) (Text.trim text)).getD
          (own.map Char.toLower)) := by
  rcases Option.isSome_iff_exists.mp matched with ⟨parts, found⟩
  rcases List.forall₂_iff_get.mp (stretch_starts (greedy_of_captures? found).1) with
    ⟨sameLength, stand⟩
  have isPart : index < parts.length := by
    rw [length_of_captures? found]
    exact inside
  have isStart : index < (starts (ofText written) parts).length := by
    rw [sameLength]
    exact isPart
  have stands := stand index isStart isPart
  set start := (starts (ofText written) parts).get ⟨index, isStart⟩ with start_eq
  set part := parts.get ⟨index, isPart⟩ with part_eq
  have trimmed : (Text.trim text).IsAscii := ascii.of_infix (Text.infix_trim text)
  have place : (stretch start part.length (Text.trim text)).IsAscii :=
    trimmed.of_infix (Text.infix_stretch _ _ _)
  have lowered : (stretch start part.length (Text.trim text)).map Char.toLower = part := by
    rw [Text.map_stretch, ← Text.normalize_of_ascii ascii]
    exact stands
  refine ⟨Text.trim (stretch start part.length (Text.trim text)), ?_, ?_, ?_⟩
  · unfold spelled?
    rw [found]
    simp [isStart, isPart, start_eq, part_eq]
  · exact (Text.infix_trim _).trans (Text.infix_stretch _ _ _)
  · rw [extract?_of_nonneg found (Int.natCast_nonneg index), Int.toNat_natCast,
      List.getElem?_eq_getElem isPart, ← Text.trim_map_toLower place, lowered]
    rfl

/-- Where a pattern matches an ASCII text, what is extracted at a hole stands at the first place
of the trimmed text that reads like what the hole captured. It is spelled as at the place of the
hole exactly where that first place is spelled so. -/
theorem extract?_first_like (ascii : text.IsAscii) (matched : matchesText written text = true)
    (inside : index < holes (ofText written)) :
    ∃ own start, spelled? written text index = some own ∧ FirstLike own (Text.trim text) start ∧
      extract? written text index = some (stretch start own.length (Text.trim text)) ∧
      (extract? written text index = spelled? written text index ↔
        stretch start own.length (Text.trim text) = own) := by
  rcases exists_spelled? ascii matched inside with ⟨own, isSpelled, within, extracted⟩
  have trimmed : (Text.trim text).IsAscii := ascii.of_infix (Text.infix_trim text)
  have alike := Text.alike_map_toLower (trimmed.of_infix within)
  rcases Text.exists_findLike? within alike with ⟨found, like⟩
  rcases Text.findLike?_eq_some_iff.mp like with ⟨start, firstLike, isFound⟩
  rw [like, Option.getD_some, isFound, List.length_map] at extracted
  refine ⟨own, start, isSpelled, firstLike.of_alike alike.symm, extracted, ?_⟩
  rw [extracted, isSpelled, Option.some.injEq]

/-- A capture that is not repeated keeps its spelling. -/
theorem extract?_first_like_kitchen :
    let written : Text := "go to \x7bplace\x7d"
    let text : Text := "Go to the Kitchen"
    text.IsAscii ∧ matchesText written text = true ∧ 0 < holes (ofText written) ∧
      ∃ own start, spelled? written text 0 = some own ∧ FirstLike own (Text.trim text) start ∧
        extract? written text (0 : Nat) = some (stretch start own.length (Text.trim text)) ∧
        (extract? written text (0 : Nat) = spelled? written text 0 ↔
          stretch start own.length (Text.trim text) = own) := by
  intro written text
  have ascii : text.IsAscii := by decide
  have matched : matchesText written text = true := by decide
  have inside : 0 < holes (ofText written) := by decide
  exact ⟨ascii, matched, inside, extract?_first_like ascii matched inside⟩

/-- The second word is captured, but the first one, which reads like it, is extracted. -/
theorem not_extract?_spelled_repeated :
    let written : Text := "say \x7bwhat\x7d, *"
    let text : Text := " Say SAY , Bob "
    text.IsAscii ∧ matchesText written text = true ∧ 0 < holes (ofText written) ∧
      spelled? written text 0 = some "SAY" ∧ extract? written text 0 = some "Say" ∧
      extract? written text 0 ≠ spelled? written text 0 := by
  decide

end Pattern

end RobotRules
