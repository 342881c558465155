import RobotRules.Expr.Parser
import RobotRules.Proofs.Nesting.Closing
import RobotRules.Proofs.Nesting.Segments
import RobotRules.Proofs.Operator.Search

/-! One step of reading an expression: which parts of a text it looks at, and
that these are shorter than the text. So the bound on the nesting is never
reached, and reading satisfies the equation `parse_eq`. -/

namespace RobotRules

namespace Expr

open Nesting (Closed)

/-! What a text is read as. -/

/-- A text between a first and a last character. -/
theorem eq_concat_of_getLast? {text : Text} {c : Char} (last : text.getLast? = some c) :
    text = text.dropLast ++ [c] := by
  rcases List.eq_nil_or_concat text with nothing | ⟨others, d, ends⟩
  · simp [nothing] at last
  · rw [ends] at last ⊢
    simpa using last

theorem literalBody?_eq_some_iff {text value : Text} :
    literalBody? text = some value ↔ text = '"' :: value ++ ['"'] ∧ '"' ∉ value := by
  constructor
  · intro found
    unfold literalBody? at found
    split at found
    · rename_i rest
      simp only at found
      split_ifs at found with quotes
      simp only [Bool.and_eq_true, beq_iff_eq, Bool.not_eq_true',
        List.contains_eq_mem, decide_eq_false_iff_not] at quotes
      have body := Option.some.inj found
      rw [body] at quotes
      refine ⟨?_, quotes.2⟩
      rw [List.cons_append, ← body, ← eq_concat_of_getLast? quotes.1]
    · simp at found
  · rintro ⟨equal, unquoted⟩
    rw [equal]
    simp [literalBody?, unquoted]

theorem builtinBody?_eq_some_iff {name text body : Text} :
    builtinBody? name text = some body ↔
      text = name ++ ('(' :: body ++ [')']) ∧ Closed body := by
  constructor
  · intro found
    unfold builtinBody? at found
    split at found
    · rename_i rest after
      rw [Text.after?_eq_some_iff] at after
      split_ifs at found with closes
      rw [Bool.and_eq_true] at closes
      rcases Nesting.closesAtEnd_iff.mp closes.2 with ⟨inner, equal, closed⟩
      have same := Option.some.inj found
      rw [equal, List.dropLast_concat] at same
      subst same equal
      exact ⟨by rw [after, List.cons_append], closed⟩
    · simp at found
  · rintro ⟨equal, closed⟩
    have after : Text.after? name text = some ('(' :: (body ++ [')'])) :=
      Text.after?_eq_some_iff.mpr (by rw [equal, List.cons_append])
    have closes : Nesting.closesAtEnd ('(' :: (body ++ [')'])) = true :=
      Nesting.closesAtEnd_iff.mpr ⟨body, rfl, closed⟩
    unfold builtinBody?
    rw [after]
    simp [closes]

/-- The parts of a call are found at the first point and at the next parenthesis. -/
theorem callParts?_eq_some_iff {text receiver method fromParenthesis : Text} :
    callParts? text = some (receiver, method, fromParenthesis) ↔
      ∃ front middle rest, text = front ++ '.' :: (middle ++ '(' :: rest) ∧
        front ≠ [] ∧ '.' ∉ front ∧ '(' ∉ middle ∧ receiver = Text.trim front ∧
        method = Text.trim middle ∧ fromParenthesis = '(' :: rest := by
  constructor
  · intro found
    unfold callParts? at found
    split at found
    · simp at found
    · simp at found
    · rename_i front point afterPoint beforePoint hasFront
      rcases Text.exists_of_dropWhile_eq_cons beforePoint with ⟨_, cutAtPoint, noPoint⟩
      split at found
      · simp at found
      · rename_i nonempty
        rcases behind : afterPoint.dropWhile (· != '(') with _ | ⟨parenthesis, rest⟩
        · exact absurd behind nonempty
        · rcases Text.exists_of_dropWhile_eq_cons behind with
            ⟨same, cutAtParenthesis, noParenthesis⟩
          simp only [Option.some.injEq, Prod.mk.injEq] at found
          refine ⟨text.takeWhile (· != '.'), afterPoint.takeWhile (· != '('), rest,
            ?_, hasFront, noPoint, noParenthesis, found.1.symm, found.2.1.symm, ?_⟩
          · rw [← cutAtParenthesis, ← cutAtPoint]
          · rw [← found.2.2, behind, same]
  · rintro ⟨front, middle, rest, equal, hasFront, noPoint, noParenthesis, isReceiver,
      isMethod, isRest⟩
    unfold callParts?
    rw [equal, Text.takeWhile_append_of_not_mem noPoint,
      Text.dropWhile_append_of_not_mem noPoint]
    rcases front with _ | ⟨c, front⟩
    · exact absurd rfl hasFront
    · simp only [Text.takeWhile_append_of_not_mem noParenthesis,
        Text.dropWhile_append_of_not_mem noParenthesis]
      rw [isReceiver, isMethod, isRest]

/-! The parts of a text are shorter than the text. -/

theorem length_le_of_mem_splitArguments {text part : Text}
    (member : part ∈ Nesting.splitArguments text) : part.length ≤ text.length := by
  unfold Nesting.splitArguments at member
  split_ifs at member with blank
  · simp at member
  · rcases List.mem_map.mp member with ⟨segment, inSegments, equal⟩
    rw [← equal]
    have within := Nesting.sublist_of_mem_segmentsFrom inSegments
    exact (Text.length_trim_le segment).trans within.length_le

theorem length_of_builtinBody? {name text body : Text}
    (found : builtinBody? name text = some body) : body.length < text.length := by
  rw [(builtinBody?_eq_some_iff.mp found).1]
  simp
  omega

theorem around_operator (left token right : Text) :
    Operator.around (left ++ token ++ right) ⟨left.length, token.length⟩ = (left, right) := by
  unfold Operator.around
  rw [← List.length_append, List.drop_left, List.append_assoc, List.take_left]

section Congruence

variable {read read' : Text → Except ParseError Expr} {text : Text}

theorem mapM_congr {parts : List Text} (same : ∀ part ∈ parts, read part = read' part) :
    parts.mapM read = parts.mapM read' := by
  induction parts with
  | nil => rfl
  | cons part others induction =>
      rw [List.mapM_cons, List.mapM_cons, same part (by simp),
        induction fun other member => same other (by simp [member])]

theorem readPattern_congr {builtin argument : Text} (same : read argument = read' argument) :
    readPattern read builtin argument = readPattern read' builtin argument := by
  unfold readPattern
  rw [same]

theorem readMatching_congr
    (same : ∀ part ∈ Nesting.splitArguments text, read part = read' part) :
    readMatching read text = readMatching read' text := by
  unfold readMatching
  split
  · rename_i pattern text split
    rw [split] at same
    rw [readPattern_congr (same pattern (by simp)), same text (by simp)]
  · rfl

theorem readCapture_congr
    (same : ∀ part ∈ Nesting.splitArguments text, read part = read' part) :
    readCapture read text = readCapture read' text := by
  unfold readCapture
  split
  · rename_i pattern text split
    rw [split] at same
    rw [readPattern_congr (same pattern (by simp)), same text (by simp)]
  · rename_i pattern text index split
    rw [split] at same
    rw [readPattern_congr (same pattern (by simp)), same text (by simp)]
  · rfl

theorem readCall_congr (same : ∀ part : Text, part.length < text.length →
    read part = read' part) : readCall read text = readCall read' text := by
  unfold readCall
  split
  · rfl
  · rename_i receiver method fromParenthesis parts
    rcases callParts?_eq_some_iff.mp parts with
      ⟨front, middle, rest, equal, _, _, _, _, _, isRest⟩
    have arguments : (Nesting.splitArguments fromParenthesis.tail.dropLast).mapM read =
        (Nesting.splitArguments fromParenthesis.tail.dropLast).mapM read' := by
      apply mapM_congr
      intro part member
      apply same
      have bound := length_le_of_mem_splitArguments member
      simp only [isRest, List.tail_cons, List.length_dropLast] at bound
      simp only [equal, List.length_append, List.length_cons]
      omega
    dsimp only
    rw [arguments]

theorem readOperands_congr {make : Expr → Expr → Expr} {left token right : Text}
    (nonempty : token ≠ []) (equal : text = left ++ token ++ right)
    (same : ∀ part : Text, part.length < text.length → read part = read' part) :
    readOperands read make text ⟨left.length, token.length⟩ =
      readOperands read' make text ⟨left.length, token.length⟩ := by
  have positive := List.length_pos_iff.mpr nonempty
  unfold readOperands
  rw [equal, around_operator]
  dsimp only
  rw [same left (by simp [equal]; omega), same right (by simp [equal]; omega)]

theorem readCompound_congr (same : ∀ part : Text, part.length < text.length →
    read part = read' part) : readCompound read text = readCompound read' text := by
  have operands : ∀ {operator : Operator} (_ : operator.Plain) {span : Span}
      (make : Expr → Expr → Expr), operator.last? text = some span →
      readOperands read make text span = readOperands read' make text span := by
    intro operator plain span make last
    rcases Operator.exists_of_last?_eq_some plain last with
      ⟨left, token, right, equal, place, stands, _⟩
    rw [place]
    exact readOperands_congr (stands.written.nonempty plain) equal same
  unfold readCompound
  split
  · rename_i last
    exact operands Operator.plain_disjunction .or last
  · rename_i last
    exact operands Operator.plain_conjunction .and last
  · split
    · rename_i single
      rcases Operator.exists_of_occurrences_eq_singleton Operator.plain_equality single with
        ⟨left, token, right, equal, place, stands, _⟩
      rw [place]
      exact readOperands_congr (stands.written.nonempty Operator.plain_equality) equal same
    · rfl
    · rw [readCall_congr same]

theorem readTrimmed_congr (same : ∀ part : Text, part.length < text.length →
    read part = read' part) : readTrimmed read text = readTrimmed read' text := by
  have arguments : ∀ {name body : Text}, builtinBody? name text = some body →
      ∀ part ∈ Nesting.splitArguments body, read part = read' part := by
    intro name body found part member
    have bound := length_le_of_mem_splitArguments member
    have shorter := length_of_builtinBody? found
    exact same part (by omega)
  unfold readTrimmed
  split_ifs
  · rfl
  · split
    · rfl
    · rename_i found
      exact readMatching_congr (arguments found)
    · rename_i found
      exact readCapture_congr (arguments found)
    · exact readCompound_congr same

end Congruence

/-- Any bound above the length of the text reads the same. -/
theorem parseWithin_eq_of_lt {depth depth' : Nat} {text : Text}
    (deep : text.length < depth) (deep' : text.length < depth') :
    parseWithin depth text = parseWithin depth' text := by
  induction depth generalizing depth' text with
  | zero => omega
  | succ depth induction =>
      cases depth' with
      | zero => omega
      | succ depth' =>
          have trimmed := Text.length_trim_le text
          exact readTrimmed_congr fun part shorter => induction (by omega) (by omega)

/-- Reading an expression is one step of reading its trimmed text. -/
theorem parse_eq (text : Text) : parse text = readTrimmed parse (Text.trim text) := by
  have trimmed := Text.length_trim_le text
  change readTrimmed (parseWithin text.length) (Text.trim text) = _
  exact readTrimmed_congr fun part shorter =>
    parseWithin_eq_of_lt (by omega) (by omega)

/-- Reading does not see white space at the ends of a text. -/
theorem parse_append_blank {before after : Text} (blankBefore : Text.isBlank before = true)
    (blankAfter : Text.isBlank after = true) (text : Text) :
    parse (before ++ text ++ after) = parse text := by
  rw [parse_eq, parse_eq text, Text.trim_append_of_isBlank blankBefore blankAfter]

end Expr

end RobotRules
