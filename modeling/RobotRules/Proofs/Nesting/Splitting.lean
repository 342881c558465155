import RobotRules.Proofs.Nesting.Counts
import RobotRules.Proofs.Nesting.Segments

/-! Splitting is the inverse of joining. Closed segments that stand in a text with a separator
between each two are what the text is split into, without the white space around them. And what
any text is split into stands in it in this way. -/

namespace RobotRules.Nesting

open Operator (mark Free)

variable {separator : Char} {segments : List Text} {text : Text}

/-- A text that can stand between two separators: its quotes come in pairs, its parentheses
outside quotes are balanced, and the separator occurs in it only inside quotes or
parentheses. -/
structure Segment (separator : Char) (text : Text) : Prop where
  paired : Even (quotes text)
  balanced : openings text = closings text
  neverBelow : ∀ place < text.length,
    closings (text.take place) ≤ openings (text.take place)
  inside : ∀ place < text.length, text[place]? = some separator →
    ¬Even (quotes (text.take place)) ∨
      closings (text.take place) < openings (text.take place)

instance (separator : Char) (text : Text) : Decidable (Segment separator text) :=
  decidable_of_iff (Even (quotes text) ∧ openings text = closings text ∧
      (∀ place < text.length, closings (text.take place) ≤ openings (text.take place)) ∧
      ∀ place < text.length, text[place]? = some separator →
        ¬Even (quotes (text.take place)) ∨
          closings (text.take place) < openings (text.take place))
    ⟨fun ⟨paired, balanced, neverBelow, inside⟩ => ⟨paired, balanced, neverBelow, inside⟩,
      fun segment => ⟨segment.paired, segment.balanced, segment.neverBelow, segment.inside⟩⟩

example : Segment ',' "f(a, \")\")" ∧ ¬Segment ',' "a, b" ∧ ¬Segment ',' ")(" := by decide

theorem Segment.level (segment : Segment separator text) : Level text :=
  ⟨segment.paired, segment.balanced⟩

theorem Segment.closed (segment : Segment separator text) : Closed text := by
  refine closed_iff.mpr ⟨segment.level, ?_⟩
  rintro before ⟨after, equal⟩
  cases after with
  | nil =>
      rw [List.append_nil] at equal
      exact (equal ▸ segment.balanced).ge
  | cons c rest =>
      have shorter : before.length < text.length := by
        rw [← equal, List.length_append, List.length_cons]
        omega
      have bound := segment.neverBelow before.length shorter
      rwa [← equal, List.take_left] at bound

theorem Segment.free (segment : Segment separator text) : (mark separator).Free text := by
  rw [free_mark_iff]
  intro before after equal top
  have level := through_eq_outside_iff.mp top
  have shorter : before.length < text.length := by
    rw [equal, List.length_append, List.length_cons]
    omega
  have inside := segment.inside before.length shorter (by simp [equal])
  rw [equal, List.take_left] at inside
  rcases inside with quoted | opened
  · exact quoted level.paired
  · exact opened.ne level.balanced.symm

/-- A part with white space around it. -/
def Padded (part padded : Text) : Prop :=
  ∃ before after, Text.isBlank before = true ∧ Text.isBlank after = true ∧
    padded = before ++ part ++ after

theorem Padded.trim_eq {part padded : Text} (surrounds : Padded part padded) :
    Text.trim padded = Text.trim part := by
  rcases surrounds with ⟨before, after, blankBefore, blankAfter, rfl⟩
  exact Text.trim_append_of_isBlank blankBefore blankAfter part

theorem padded_trim (text : Text) : Padded (Text.trim text) text := Text.exists_trim text

/-- White space around a part changes nothing about the nesting. -/
theorem Padded.closed {part padded : Text} (surrounds : Padded part padded)
    (closed : Closed part) : Closed padded := by
  rcases surrounds with ⟨before, after, blankBefore, blankAfter, rfl⟩
  exact ((Closed.of_no_delimiter (Operator.undelimited_of_isBlank blankBefore)).append
    closed).append (.of_no_delimiter (Operator.undelimited_of_isBlank blankAfter))

theorem Padded.free {part padded : Text} (surrounds : Padded part padded)
    (plain : (mark separator).Plain) (free : (mark separator).Free part) :
    (mark separator).Free padded := by
  rcases surrounds with ⟨before, after, blankBefore, blankAfter, rfl⟩
  exact (Operator.free_spaced_iff plain blankBefore blankAfter).mpr free

/-- A text in which parts stand with the separator between each two, and with white space
around them. -/
def Joins (separator : Char) (parts : List Text) (text : Text) : Prop :=
  ∃ padded, List.Forall₂ Padded parts padded ∧ text = Text.join [separator] padded

/-- Closed segments, one at least, that stand in a text in this way. -/
structure Row (separator : Char) (segments : List Text) (text : Text) : Prop where
  nonempty : segments ≠ []
  closed : ∀ segment ∈ segments, Segment separator segment
  joins : Joins separator segments text

theorem map_trim_of_padded {parts padded : List Text}
    (surround : List.Forall₂ Padded parts padded) :
    padded.map Text.trim = parts.map Text.trim := by
  induction surround with
  | nil => rfl
  | cons first _ induction => rw [List.map_cons, List.map_cons, first.trim_eq, induction]

theorem forall_closed_of_padded {parts padded : List Text} (plain : (mark separator).Plain)
    (surround : List.Forall₂ Padded parts padded)
    (each : ∀ part ∈ parts, Closed part ∧ (mark separator).Free part) :
    ∀ part ∈ padded, Closed part ∧ (mark separator).Free part := by
  induction surround with
  | nil => exact nofun
  | cons first _ induction =>
      rw [List.forall_mem_cons] at each ⊢
      exact ⟨⟨first.closed each.1.1, first.free plain each.1.2⟩, induction each.2⟩

theorem split_of_row (plain : (mark separator).Plain)
    (undelimited : isDelimiter separator = false) (row : Row separator segments text) :
    split separator text = segments.map Text.trim := by
  rcases row with ⟨nonempty, closed, padded, surround, rfl⟩
  have each := forall_closed_of_padded plain surround fun segment member =>
    ⟨(closed segment member).closed, (closed segment member).free⟩
  have some : padded ≠ [] := by
    rintro rfl
    exact nonempty (List.forall₂_nil_right_iff.mp surround)
  unfold split
  rw [segmentsFrom_join undelimited some (fun part member => (each part member).1.returns)
    (fun part member => (each part member).2), map_trim_of_padded surround]

theorem join_extend (separator c : Char) {parts : List Text} (nonempty : parts ≠ []) :
    Text.join [separator] (extend c parts) = c :: Text.join [separator] parts := by
  cases parts with
  | nil => exact absurd rfl nonempty
  | cons first others => exact join_append_cons [separator] [c] first others

/-- Wherever the reading starts, no character is lost, added or moved. -/
theorem join_segmentsFrom (separator : Char) (state : Nesting) (text : Text) :
    Text.join [separator] (segmentsFrom separator state text) = text := by
  induction text generalizing state with
  | nil => rfl
  | cons c rest induction =>
      rw [segmentsFrom]
      split_ifs with cut
      · simp only [Bool.and_eq_true, beq_iff_eq] at cut
        rcases segments : segmentsFrom separator state rest with _ | ⟨first, others⟩
        · exact absurd segments (segmentsFrom_ne_nil _ _)
        · rw [join_cons_cons, ← segments, induction, cut.1.2]
          rfl
      · rw [join_extend separator c (segmentsFrom_ne_nil _ _), induction]

theorem joins_split (separator : Char) (text : Text) :
    Joins separator (split separator text) text := by
  refine ⟨segmentsFrom separator outside text, ?_, (join_segmentsFrom _ _ _).symm⟩
  rw [split, List.forall₂_map_left_iff, List.forall₂_same]
  exact fun part _ => padded_trim part

theorem split_of_mem_separators (isSeparator : separator ∈ [',', ';'])
    (row : Row separator segments text) : split separator text = segments.map Text.trim := by
  have known : (mark separator).Plain ∧ isDelimiter separator = false := by
    rcases List.mem_pair.mp isSeparator with rfl | rfl
    · exact ⟨Operator.plain_mark (by decide) rfl rfl, rfl⟩
    · exact ⟨Operator.plain_mark (by decide) rfl rfl, rfl⟩
  exact split_of_row known.1 known.2 row

/-- A row of closed segments is split into its segments, trimmed; of these, the actions of a
rule are those that are not empty, and the arguments of a call are all, unless the text is
blank. The parts that any text is split into stand in it with the separator between each two,
and with white space around them. -/
theorem split_inverts_join :
    (∀ separator ∈ [',', ';'], ∀ segments text, Row separator segments text →
      split separator text = segments.map Text.trim) ∧
    (∀ segments text, Row ';' segments text →
      splitActions text = (segments.map Text.trim).filter (· ≠ [])) ∧
    (∀ segments text, Row ',' segments text → splitArguments text =
      if Text.isBlank text then [] else segments.map Text.trim) ∧
    ∀ separator text, Joins separator (split separator text) text := by
  refine ⟨fun separator isSeparator segments text row =>
    split_of_mem_separators isSeparator row, fun segments text row => ?_,
    fun segments text row => ?_, joins_split⟩
  · rw [splitActions, split_of_mem_separators (by simp) row]
    congr 1
    funext part
    cases part <;> simp
  · rw [splitArguments, split_of_mem_separators (by simp) row]

section Dealt

/-- Segments that have both separators inside quotes or parentheses, and one that is empty. -/
def dealt : List Text := ["f(a; b, \")\")", "", "\"c, d; e\""]

/-- The segments with white space around them. -/
def dealtText (separator : Char) : Text :=
  Text.join [separator] [" f(a; b, \")\")\t", "\t ", "\"c, d; e\"\n"]

theorem row_dealt (isSeparator : separator ∈ [',', ';']) :
    Row separator dealt (dealtText separator) where
  nonempty := List.cons_ne_nil _ _
  closed := by
    rcases List.mem_pair.mp isSeparator with rfl | rfl <;> decide
  joins := by
    refine ⟨_, .cons ⟨" ", "\t", rfl, rfl, rfl⟩ (.cons ⟨"\t ", "", rfl, rfl, rfl⟩
      (.cons ⟨"", "\n", rfl, rfl, rfl⟩ .nil)), rfl⟩

theorem split_inverts_join_dealt :
    Row ',' dealt (dealtText ',') ∧ Row ';' dealt (dealtText ';') ∧
      split ',' (dealtText ',') = dealt ∧
      splitActions (dealtText ';') = ["f(a; b, \")\")".toList, "\"c, d; e\"".toList] ∧
      splitArguments (dealtText ',') = dealt ∧
      Joins ';' (split ';' (dealtText ';')) (dealtText ';') := by
  have rows : Row ',' dealt (dealtText ',') ∧ Row ';' dealt (dealtText ';') :=
    ⟨row_dealt (by decide), row_dealt (by decide)⟩
  exact ⟨rows.1, rows.2, split_inverts_join.1 ',' (by decide) dealt _ rows.1,
    split_inverts_join.2.1 dealt _ rows.2, split_inverts_join.2.2.1 dealt _ rows.1,
    split_inverts_join.2.2.2 _ _⟩

end Dealt

end RobotRules.Nesting
