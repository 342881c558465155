import Mathlib.Data.List.Induction
import RobotRules.Nesting.Segments
import RobotRules.Proofs.Operator.Occurrence
import RobotRules.Proofs.Text

/-! Cutting at separators. Texts that are closed and free of the separator come
back from the text in which they stand with the separator between each two; and
every closed text is such a row of texts. -/

namespace RobotRules.Nesting

open Operator (mark Free)

variable {separator : Char}

/-- A text is free of a mark if the mark stands in quotes or parentheses wherever
it stands. -/
theorem free_mark_iff {text : Text} : (mark separator).Free text ↔
    ∀ before after, text = before ++ separator :: after →
      outside.through before ≠ outside := by
  constructor
  · intro free before after equal top
    exact free before [separator] after (by simpa using equal) ⟨top, .symbol⟩
  · intro inside before token after equal stands
    cases stands.written with
    | symbol => exact inside before after (by simpa [mark] using equal) stands.top
    | word hasWord => exact hasWord rfl

theorem segmentsFrom_ne_nil (state : Nesting) (text : Text) :
    segmentsFrom separator state text ≠ [] := by
  cases text with
  | nil => simp [segmentsFrom]
  | cons c rest =>
      rw [segmentsFrom]
      split
      · simp
      · cases segmentsFrom separator (state.next c) rest <;> simp [extend]

/-- Segments hold characters of the text in their order. -/
theorem sublist_of_mem_segmentsFrom {state : Nesting} {text segment : Text}
    (member : segment ∈ segmentsFrom separator state text) : segment.Sublist text := by
  induction text generalizing state segment with
  | nil =>
      rw [segmentsFrom, List.mem_singleton] at member
      rw [member]
  | cons c rest induction =>
      rw [segmentsFrom] at member
      split at member
      · rcases List.mem_cons.mp member with empty | later
        · rw [empty]
          exact List.nil_sublist _
        · exact (induction later).cons c
      · rcases segments : segmentsFrom separator (state.next c) rest with
          _ | ⟨first, others⟩
        · exact absurd segments (segmentsFrom_ne_nil _ _)
        · rw [segments, extend] at member
          rcases List.mem_cons.mp member with longer | later
          · rw [longer]
            exact (induction (segments ▸ List.mem_cons_self)).cons_cons c
          · exact (induction (segments ▸ List.mem_cons_of_mem _ later)).cons c

/-- Characters in front of the first separator go to the first segment. -/
theorem segmentsFrom_append (done part rest : Text) {first : Text} {others : List Text}
    (inside : ∀ before after, part = before ++ separator :: after →
      outside.through (done ++ before) ≠ outside)
    (behind : segmentsFrom separator (outside.through (done ++ part)) rest =
      first :: others) :
    segmentsFrom separator (outside.through done) (part ++ rest) =
      (part ++ first) :: others := by
  induction part generalizing done with
  | nil => simpa using behind
  | cons c part induction =>
      have stays : ((outside.through done).isTop && c == separator && !isDelimiter c) ≠
          true := by
        intro cut
        simp only [Bool.and_eq_true, beq_iff_eq] at cut
        apply inside [] part (by simp [cut.1.2])
        simpa using isTop_iff.mp cut.1.1
      have step : (outside.through done).next c = outside.through (done ++ [c]) := by
        rw [through_append]
        rfl
      have tail := induction (done ++ [c])
        (fun before after equal => by
          have shifted := inside (c :: before) after (by rw [equal]; rfl)
          simpa using shifted)
        (by simpa using behind)
      rw [List.cons_append, segmentsFrom, if_neg stays, step, tail]
      rfl

theorem segmentsFrom_of_free {part : Text} (free : (mark separator).Free part) :
    segmentsFrom separator outside part = [part] := by
  have nothing : segmentsFrom separator (outside.through ([] ++ part)) [] = [[]] := rfl
  have alone := segmentsFrom_append [] part [] (free_mark_iff.mp free) nothing
  simpa using alone

theorem segmentsFrom_append_separator {part : Text} (rest : Text)
    (undelimited : isDelimiter separator = false)
    (free : (mark separator).Free part) (top : outside.through part = outside) :
    segmentsFrom separator outside (part ++ separator :: rest) =
      part :: segmentsFrom separator outside rest := by
  have cut : segmentsFrom separator (outside.through ([] ++ part)) (separator :: rest) =
      [] :: segmentsFrom separator outside rest := by
    rw [List.nil_append, top, segmentsFrom]
    simp [undelimited, isTop, outside]
  have whole := segmentsFrom_append [] part (separator :: rest) (free_mark_iff.mp free) cut
  simpa using whole

/-- The first separator at the top. -/
theorem exists_first_separator {text : Text} (found : ¬(mark separator).Free text) :
    ∃ part rest, text = part ++ separator :: rest ∧
      outside.through part = outside ∧ (mark separator).Free part := by
  induction text using List.reverseRecOn with
  | nil => exact absurd (free_mark_iff.mpr (by simp)) found
  | append_singleton text c induction =>
      by_cases free : (mark separator).Free text
      · -- the only separator at the top is the last character
        simp only [free_mark_iff, not_forall, not_not] at found
        rcases found with ⟨before, after, equal, top⟩
        rcases List.eq_nil_or_concat after with nothing | ⟨others, d, ends⟩
        · subst nothing
          have parts := List.append_inj' equal rfl
          exact ⟨text, [], by rw [parts.2], by rw [parts.1, top], free⟩
        · have longer : text ++ [c] = (before ++ separator :: others) ++ [d] := by
            simpa [ends] using equal
          have parts := List.append_inj' longer rfl
          exact absurd top (free_mark_iff.mp free before others parts.1)
      · rcases induction free with ⟨part, rest, equal, top, freePart⟩
        exact ⟨part, rest ++ [c], by simp [equal], top, freePart⟩

/-! Rows of segments. -/

theorem join_cons_cons (separator first second : Text) (others : List Text) :
    Text.join separator (first :: second :: others) =
      first ++ separator ++ Text.join separator (second :: others) := by
  simp [Text.join, List.intercalate_cons_cons]

@[simp] theorem join_singleton (separator part : Text) :
    Text.join separator [part] = part := by
  simp [Text.join]

@[simp] theorem join_nil (separator : Text) : Text.join separator [] = [] := rfl

theorem infix_join {separator part : Text} {parts : List Text} (member : part ∈ parts) :
    part <:+: Text.join separator parts := by
  induction parts with
  | nil => simp at member
  | cons first others induction =>
      cases others with
      | nil =>
          exact ⟨[], [], by simp [List.mem_singleton.mp member]⟩
      | cons second others =>
          rw [join_cons_cons]
          rcases List.mem_cons.mp member with same | inOthers
          · rw [same, List.append_assoc]
            exact (List.prefix_append _ _).isInfix
          · exact (induction inOthers).trans (List.suffix_append _ _).isInfix

/-- What holds of the parts of a row, and of two texts with the separator between them if it holds
of both, holds of the row. -/
theorem join_induction {separator : Text} {parts : List Text} {P : Text → Prop} (nothing : P [])
    (glue : ∀ {left right : Text}, P left → P right → P (left ++ separator ++ right))
    (each : ∀ part ∈ parts, P part) : P (Text.join separator parts) := by
  induction parts with
  | nil => exact nothing
  | cons first others induction =>
      have here := each first (by simp)
      have tail := induction fun part member => each part (List.mem_cons_of_mem _ member)
      cases others with
      | nil => rwa [join_singleton]
      | cons second others =>
          rw [join_cons_cons]
          exact glue here tail

theorem forall_mem_join {separator : Text} {parts : List Text} {P : Char → Prop}
    (glue : ∀ c ∈ separator, P c) (each : ∀ part ∈ parts, ∀ c ∈ part, P c) :
    ∀ c ∈ Text.join separator parts, P c := by
  refine join_induction (P := fun text => ∀ c ∈ text, P c) (by simp) ?_ each
  intro left right inLeft inRight
  rw [List.forall_mem_append, List.forall_mem_append]
  exact ⟨⟨inLeft, glue⟩, inRight⟩

/-- What stands in front of the first part stands in front of the row. -/
theorem join_append_cons (separator front first : Text) (others : List Text) :
    Text.join separator ((front ++ first) :: others) =
      front ++ Text.join separator (first :: others) := by
  cases others with
  | nil => simp
  | cons second others => simp [join_cons_cons]

/-- A gap behind each separator can be counted with the part that follows it. -/
theorem join_cons_gap (separator : Char) (gap first : Text) (others : List Text) :
    Text.join (separator :: gap) (first :: others) =
      Text.join [separator] (first :: others.map (gap ++ ·)) := by
  induction others generalizing first with
  | nil => simp
  | cons second others induction =>
      rw [List.map_cons, join_cons_cons, join_cons_cons, induction, join_append_cons]
      simp

theorem closed_join {separator : Char} {parts : List Text}
    (undelimited : isDelimiter separator = false) (closed : ∀ part ∈ parts, Closed part) :
    Closed (Text.join [separator] parts) :=
  have closedSeparator : Closed [separator] := .of_no_delimiter (by simpa using undelimited)
  join_induction .nil (fun left right => (left.append closedSeparator).append right) closed

theorem segmentsFrom_join {parts : List Text} (undelimited : isDelimiter separator = false)
    (nonempty : parts ≠ [])
    (closed : ∀ part ∈ parts, outside.through part = outside)
    (free : ∀ part ∈ parts, (mark separator).Free part) :
    segmentsFrom separator outside (Text.join [separator] parts) = parts := by
  induction parts with
  | nil => exact absurd rfl nonempty
  | cons part others induction =>
      cases others with
      | nil =>
          rw [join_singleton]
          exact segmentsFrom_of_free (free part (by simp))
      | cons other others =>
          have tail := induction (by simp)
            (fun part member => closed part (List.mem_cons_of_mem _ member))
            (fun part member => free part (List.mem_cons_of_mem _ member))
          have cut := segmentsFrom_append_separator
            (Text.join [separator] (other :: others)) undelimited
            (free part (by simp)) (closed part (by simp))
          rw [join_cons_cons, List.append_assoc]
          exact cut.trans (congrArg (part :: ·) tail)

/-- The segments of a text stand in it with the separator between each two. A
closed text has closed segments, and none of them has the separator at the top. -/
theorem exists_segments_of_closed {text : Text}
    (undelimited : isDelimiter separator = false) (closed : Closed text) :
    ∃ parts, parts ≠ [] ∧ text = Text.join [separator] parts ∧
      segmentsFrom separator outside text = parts ∧
      ∀ part ∈ parts, Closed part ∧ (mark separator).Free part := by
  by_cases free : (mark separator).Free text
  · refine ⟨[text], by simp, by simp, segmentsFrom_of_free free, ?_⟩
    simp [closed, free]
  · rcases exists_first_separator free with ⟨part, rest, equal, top, freePart⟩
    have shorter : rest.length < text.length := by
      simp only [equal, List.length_append, List.length_cons]
      omega
    rw [equal] at closed
    have closedRest : Closed rest := by
      have sides := closed.split top
      have behind : Closed ([separator] ++ rest) := sides.2
      exact (behind.split (through_of_no_delimiter (by simpa using undelimited) outside)).2
    rcases exists_segments_of_closed undelimited closedRest with
      ⟨parts, nonempty, joined, segments, each⟩
    refine ⟨part :: parts, by simp, ?_, ?_, ?_⟩
    · rcases parts with _ | ⟨other, others⟩
      · exact absurd rfl nonempty
      · rw [join_cons_cons, ← joined, equal]
        simp
    · rw [equal, segmentsFrom_append_separator rest undelimited freePart top, segments]
    · intro other member
      rcases List.mem_cons.mp member with same | member
      · rw [same]
        exact ⟨(closed.split top).1, freePart⟩
      · exact each other member
termination_by text.length

/-! The arguments of a call. -/

theorem isBlank_of_isBlank_join {separator : Text} {parts : List Text}
    (blank : Text.isBlank (Text.join separator parts) = true) :
    ∀ part ∈ parts, Text.isBlank part = true := fun _ member =>
  List.all_eq_true.mpr fun _ inPart => Text.mem_isBlank blank ((infix_join member).subset inPart)

/-- Arguments of which one is not blank are found between their commas. -/
theorem splitArguments_join {parts : List Text} {part : Text} (member : part ∈ parts)
    (visible : ¬Text.isBlank part = true)
    (each : ∀ part ∈ parts, Closed part ∧ (mark ',').Free part) :
    splitArguments (Text.join [','] parts) = parts.map Text.trim := by
  unfold splitArguments split
  rw [if_neg fun blank => visible (isBlank_of_isBlank_join blank part member),
    segmentsFrom_join rfl (List.ne_nil_of_mem member)
      (fun part member => (each part member).1.returns) fun part member => (each part member).2]

theorem splitArguments_of_isBlank {text : Text} (blank : Text.isBlank text = true) :
    splitArguments text = [] := by
  unfold splitArguments
  rw [if_pos blank]

/-- Arguments that are found in a closed text stand in it with commas between them. -/
theorem exists_of_splitArguments_eq {text : Text} {arguments : List Text}
    (closed : Closed text) (found : splitArguments text = arguments)
    (nonempty : arguments ≠ []) :
    ∃ parts, arguments = parts.map Text.trim ∧ text = Text.join [','] parts ∧
      ∀ part ∈ parts, Closed part ∧ (mark ',').Free part := by
  have undelimited : isDelimiter ',' = false := rfl
  rcases exists_segments_of_closed undelimited closed with
    ⟨parts, _, joined, segments, each⟩
  unfold splitArguments split at found
  split_ifs at found with blank
  · exact absurd found.symm nonempty
  · exact ⟨parts, by rw [← found, segments], joined, each⟩

theorem isBlank_of_splitArguments_eq_nil {text : Text}
    (nothing : splitArguments text = []) : Text.isBlank text = true := by
  unfold splitArguments split at nothing
  split_ifs at nothing with blank
  · exact blank
  · exact absurd (List.map_eq_nil_iff.mp nothing) (segmentsFrom_ne_nil _ _)

end RobotRules.Nesting
