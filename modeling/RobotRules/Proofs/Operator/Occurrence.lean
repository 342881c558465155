import RobotRules.Proofs.Nesting.Closed
import RobotRules.Proofs.Operator.Words
import RobotRules.Proofs.Text

/-! Where operators stand. An operator stands at the top of a text, and its word
stands apart from other words. A text is free of an operator if it stands
nowhere in it; whether a text is free of it can be seen from the parts of the
text, as long as no operator runs over a cut. -/

namespace RobotRules.Operator

open Nesting (outside Enclosed)

/-- A mark without a word, such as the separator of arguments. -/
def mark (c : Char) : Operator := ⟨[c], []⟩

/-- `token` is the symbol of the operator, or its word between texts that do not
touch it with a word character. -/
inductive Written (operator : Operator) (before after : Text) : (token : Text) → Prop
  | symbol : Written operator before after operator.symbol
  | word {token : Text} : operator.word ≠ [] → Spells operator.word token →
      isBoundary before.getLast? = true → isBoundary after.head? = true →
      Written operator before after token

/-- `token` between `before` and `after` is the operator, outside quotes and
parentheses. -/
structure Stands (operator : Operator) (before token after : Text) : Prop where
  top : outside.through before = outside
  written : operator.Written before after token

/-- The operator stands nowhere in the text. -/
def Free (operator : Operator) (text : Text) : Prop :=
  ∀ before token after, text = before ++ token ++ after →
    ¬operator.Stands before token after

/-- The characters with which an operator is written. -/
def Uses (operator : Operator) (c : Char) : Prop :=
  c ∈ operator.symbol ∨ c ∈ operator.word ∨ c ∈ operator.word.map Char.toLower

instance (operator : Operator) (c : Char) : Decidable (operator.Uses c) := by
  unfold Uses
  infer_instance

/-- What holds of the characters of an operator, from the lists of them. -/
theorem of_uses {operator : Operator} {P : Char → Prop} [DecidablePred P]
    (each : (operator.symbol ++ operator.word ++ operator.word.map Char.toLower).all
      (fun c => decide (P c)) = true) : ∀ c, operator.Uses c → P c := by
  intro c uses
  apply Text.forall_mem_of_all each
  rcases uses with inSymbol | inWord | inLower
  · simp [inSymbol]
  · simp [inWord]
  · exact List.mem_append_right _ inLower

/-- Operators of the kind that is searched for: the symbol is not empty and has no
word character, the word is spelled with known letters, and no character of them
changes the nesting or is white space. -/
structure Plain (operator : Operator) : Prop where
  symbolNonempty : operator.symbol ≠ []
  symbolApart : ∀ c ∈ operator.symbol, Character.isWord c = false
  letters : operator.word ⊆ Character.wordLetters
  undelimited : ∀ c, operator.Uses c → Nesting.isDelimiter c = false
  visible : ∀ c, operator.Uses c → Character.isBlank c = false

theorem plain_disjunction : disjunction.Plain where
  symbolNonempty := by decide
  symbolApart := Text.forall_mem_of_all (by decide)
  letters := by decide
  undelimited := of_uses (by decide)
  visible := of_uses (by decide)

theorem plain_conjunction : conjunction.Plain where
  symbolNonempty := by decide
  symbolApart := Text.forall_mem_of_all (by decide)
  letters := by decide
  undelimited := of_uses (by decide)
  visible := of_uses (by decide)

theorem plain_equality : equality.Plain where
  symbolNonempty := by decide
  symbolApart := Text.forall_mem_of_all (by decide)
  letters := by decide
  undelimited := of_uses (by decide)
  visible := of_uses (by decide)

theorem plain_mark {c : Char} (apart : Character.isWord c = false)
    (undelimited : Nesting.isDelimiter c = false)
    (visible : Character.isBlank c = false) : (mark c).Plain where
  symbolNonempty := by simp [mark]
  symbolApart := by simp [mark, apart]
  letters := by simp [mark]
  undelimited := of_uses (by simp [mark, undelimited])
  visible := of_uses (by simp [mark, visible])

theorem Plain.unused_of_delimiter {operator : Operator} (plain : operator.Plain) {c : Char}
    (delimiter : Nesting.isDelimiter c = true) : ¬operator.Uses c := fun uses => by
  simp [plain.undelimited c uses] at delimiter

theorem Plain.unused_of_isBlank {operator : Operator} (plain : operator.Plain) {c : Char}
    (blank : Character.isBlank c = true) : ¬operator.Uses c := fun uses => by
  simp [plain.visible c uses] at blank

variable {operator : Operator} {before token after text left right : Text}

theorem Written.uses (written : operator.Written before after token) :
    ∀ c ∈ token, operator.Uses c := by
  intro c member
  cases written with
  | symbol => exact .inl member
  | word _ spelled _ _ => exact .inr (mem_of_spells spelled c member)

theorem Written.nonempty (plain : operator.Plain)
    (written : operator.Written before after token) : token ≠ [] := by
  cases written with
  | symbol => exact plain.symbolNonempty
  | word hasWord spelled _ _ =>
      intro nothing
      rw [nothing] at spelled
      exact hasWord (List.forall₂_nil_right_iff.mp spelled)

/-! Boundaries. -/

theorem isBoundary_getLast?_of_append (left right : Text)
    (boundary : isBoundary (left ++ right).getLast? = true) :
    isBoundary right.getLast? = true := by
  rcases List.eq_nil_or_concat right with nothing | ⟨others, c, equal⟩
  · rw [nothing]
    rfl
  · rw [equal] at boundary ⊢
    simpa using boundary

theorem isBoundary_head?_of_append (left right : Text)
    (boundary : isBoundary (left ++ right).head? = true) :
    isBoundary left.head? = true := by
  cases left with
  | nil => rfl
  | cons c rest => simpa using boundary

/-- What is written between two texts is also written between their ends. -/
theorem Written.of_before (outer : Text)
    (written : operator.Written (outer ++ before) after token) :
    operator.Written before after token := by
  cases written with
  | symbol => exact .symbol
  | word hasWord spelled boundaryBefore boundaryAfter =>
      exact .word hasWord spelled (isBoundary_getLast?_of_append _ _ boundaryBefore)
        boundaryAfter

theorem Written.of_after (outer : Text)
    (written : operator.Written before (after ++ outer) token) :
    operator.Written before after token := by
  cases written with
  | symbol => exact .symbol
  | word hasWord spelled boundaryBefore boundaryAfter =>
      exact .word hasWord spelled boundaryBefore
        (isBoundary_head?_of_append _ _ boundaryAfter)

/-! Freedom of the whole from freedom of the parts. -/

/-- Where a token lies in two texts in a row: in the right one, in the left one,
or over the cut. -/
theorem cases_of_append_eq (equal : left ++ right = before ++ token ++ after) :
    (∃ middle, before = left ++ middle ∧ right = middle ++ token ++ after) ∨
      (∃ middle, left = before ++ token ++ middle ∧ after = middle ++ right) ∨
      ∃ front back, front ≠ [] ∧ back ≠ [] ∧ token = front ++ back ∧
        left = before ++ front ∧ right = back ++ after := by
  rw [List.append_assoc] at equal
  rcases List.append_eq_append_iff.mp equal with
    ⟨middle, beyondLeft, inRight⟩ | ⟨front, inLeft, others⟩
  · exact .inl ⟨middle, beyondLeft, by rw [inRight, List.append_assoc]⟩
  · rcases List.append_eq_append_iff.mp others with
      ⟨middle, within, behind⟩ | ⟨back, across, inRight⟩
    · exact .inr (.inl ⟨middle, by rw [inLeft, within, List.append_assoc], behind⟩)
    · by_cases noFront : front = []
      · subst noFront
        exact .inl ⟨[], by simpa using inLeft.symm, by simpa [across] using inRight⟩
      · by_cases noBack : back = []
        · subst noBack
          exact .inr (.inl ⟨[], by simpa [across] using inLeft, by simpa using inRight.symm⟩)
        · exact .inr (.inr ⟨front, back, noFront, noBack, across, inLeft, inRight⟩)

/-- No operator runs over the cut between two texts. -/
def Seam (operator : Operator) (left right : Text) : Prop :=
  ∀ c d, left.getLast? = some c → right.head? = some d →
    ¬(operator.Uses c ∧ operator.Uses d)

theorem Seam.of_left (unused : ∀ c, left.getLast? = some c → ¬operator.Uses c) :
    operator.Seam left right :=
  fun c _ last _ uses => unused c last uses.1

theorem Seam.of_right (unused : ∀ c, right.head? = some c → ¬operator.Uses c) :
    operator.Seam left right :=
  fun _ d _ first uses => unused d first uses.2

theorem Free.append (freeLeft : operator.Free left) (freeRight : operator.Free right)
    (closed : outside.through left = outside) (seam : operator.Seam left right) :
    operator.Free (left ++ right) := by
  intro before token after equal stands
  rcases cases_of_append_eq equal with
    ⟨middle, beyond, inRight⟩ | ⟨middle, inLeft, behind⟩ |
      ⟨front, back, hasFront, hasBack, across, inLeft, inRight⟩
  · subst beyond
    have top := stands.top
    rw [Nesting.through_append, closed] at top
    exact freeRight middle token after inRight ⟨top, stands.written.of_before left⟩
  · subst behind
    exact freeLeft before token middle inLeft
      ⟨stands.top, stands.written.of_after right⟩
  · rcases List.eq_nil_or_concat front with nothing | ⟨others, c, frontEnds⟩
    · exact hasFront nothing
    · rcases back with _ | ⟨d, rest⟩
      · exact hasBack rfl
      · have uses := stands.written.uses
        apply seam c d
        · simp [inLeft, frontEnds]
        · simp [inRight]
        · exact ⟨uses c (by simp [across, frontEnds]), uses d (by simp [across])⟩

/-- No operator begins or goes on in a text that has no character of it. -/
theorem Free.append_of_unused (plain : operator.Plain) (free : operator.Free left)
    (unused : ∀ c ∈ right, ¬operator.Uses c) : operator.Free (left ++ right) := by
  intro before token after equal stands
  have uses := stands.written.uses
  rcases cases_of_append_eq equal with
    ⟨middle, beyond, inRight⟩ | ⟨middle, inLeft, behind⟩ |
      ⟨front, back, _, hasBack, across, _, inRight⟩
  · rcases token with _ | ⟨c, rest⟩
    · exact stands.written.nonempty plain rfl
    · exact unused c (by simp [inRight]) (uses c (by simp))
  · subst behind
    exact free before token middle inLeft ⟨stands.top, stands.written.of_after right⟩
  · rcases back with _ | ⟨c, rest⟩
    · exact hasBack rfl
    · exact unused c (by simp [inRight]) (uses c (by simp [across]))

/-- A text with no character of the operator in it. -/
theorem Free.of_unused (plain : operator.Plain)
    (unused : ∀ c ∈ text, ¬operator.Uses c) : operator.Free text := by
  intro before token after equal stands
  rcases token with _ | ⟨c, rest⟩
  · exact stands.written.nonempty plain rfl
  · exact unused c (by simp [equal]) (stands.written.uses c (by simp))

theorem Free.of_enclosed (plain : operator.Plain) (enclosed : Enclosed text)
    (unused : ∀ c, text.head? = some c → ¬operator.Uses c) : operator.Free text := by
  intro before token after equal stands
  have nonempty := stands.written.nonempty plain
  by_cases atFront : before = []
  · rcases token with _ | ⟨c, rest⟩
    · exact nonempty rfl
    · exact unused c (by simp [equal, atFront]) (stands.written.uses c (by simp))
  · refine enclosed before (token ++ after) ?_ atFront ?_ stands.top
    · rw [equal, List.append_assoc]
    · simp [nonempty]

/-- A single word is free of an operator that is not this word. -/
theorem Free.of_word (plain : operator.Plain)
    (word : ∀ c ∈ text, Character.isWord c = true)
    (different : operator.word ≠ [] → ¬Spells operator.word text) :
    operator.Free text := by
  intro before token after equal stands
  cases stands.written with
  | symbol =>
      rcases symbolEqual : operator.symbol with _ | ⟨c, rest⟩
      · exact plain.symbolNonempty symbolEqual
      · have inText := word c (by simp [equal, symbolEqual])
        rw [plain.symbolApart c (by simp [symbolEqual])] at inText
        exact absurd inText (by simp)
  | word hasWord spelled boundaryBefore boundaryAfter =>
      have nothingBefore : before = [] := by
        rcases List.eq_nil_or_concat before with nothing | ⟨others, c, ends⟩
        · exact nothing
        · have inText := word c (by simp [equal, ends])
          simp [ends, isBoundary, inText] at boundaryBefore
      have nothingAfter : after = [] := by
        rcases after with _ | ⟨c, rest⟩
        · rfl
        · have inText := word c (by simp [equal])
          simp [isBoundary, inText] at boundaryAfter
      rw [nothingBefore, nothingAfter, List.nil_append, List.append_nil] at equal
      rw [equal] at different
      exact different hasWord spelled

/-! Freedom of the parts from freedom of the whole. -/

/-- No word touches another one over the cut between two texts. -/
def Apart (left right : Text) : Prop :=
  isBoundary left.getLast? = true ∨ isBoundary right.head? = true

theorem Written.append_after (plain : operator.Plain)
    (written : operator.Written before after token)
    (apart : Apart (before ++ token ++ after) right) :
    operator.Written before (after ++ right) token := by
  have nonempty := written.nonempty plain
  cases written with
  | symbol => exact .symbol
  | word hasWord spelled boundaryBefore boundaryAfter =>
      refine .word hasWord spelled boundaryBefore ?_
      rcases after with _ | ⟨c, rest⟩
      · -- the word ends at the cut
        rcases apart with boundary | boundary
        · rcases List.eq_nil_or_concat token with nothing | ⟨others, c, ends⟩
          · exact absurd nothing nonempty
          · have isWord := isWord_of_spells plain.letters spelled c (by simp [ends])
            simp [ends, isBoundary, isWord] at boundary
        · simpa using boundary
      · simpa using boundaryAfter

theorem Written.append_before (plain : operator.Plain)
    (written : operator.Written before after token)
    (apart : Apart left (before ++ token ++ after)) :
    operator.Written (left ++ before) after token := by
  have nonempty := written.nonempty plain
  cases written with
  | symbol => exact .symbol
  | word hasWord spelled boundaryBefore boundaryAfter =>
      refine .word hasWord spelled ?_ boundaryAfter
      rcases List.eq_nil_or_concat before with nothing | ⟨others, c, ends⟩
      · -- the word begins at the cut
        subst nothing
        rcases apart with boundary | boundary
        · simpa using boundary
        · rcases token with _ | ⟨c, rest⟩
          · exact absurd rfl nonempty
          · have isWord := isWord_of_spells plain.letters spelled c (by simp)
            simp [isBoundary, isWord] at boundary
      · rw [ends] at boundaryBefore ⊢
        simpa using boundaryBefore

theorem Free.of_append_left (plain : operator.Plain) (free : operator.Free (left ++ right))
    (apart : Apart left right) : operator.Free left := by
  intro before token after equal stands
  rw [equal] at apart
  refine free before token (after ++ right) ?_
    ⟨stands.top, stands.written.append_after plain apart⟩
  simp [equal]

theorem Free.of_append_right (plain : operator.Plain) (free : operator.Free (left ++ right))
    (top : outside.through left = outside) (apart : Apart left right) :
    operator.Free right := by
  intro before token after equal stands
  rw [equal] at apart
  refine free (left ++ before) token after ?_
    ⟨?_, stands.written.append_before plain apart⟩
  · simp [equal]
  · rw [Nesting.through_append, top, stands.top]

/-! White space around a text. -/

theorem undelimited_of_isBlank (blank : Text.isBlank text = true) :
    ∀ c ∈ text, Nesting.isDelimiter c = false := fun _ member =>
  Character.blank_cases (P := fun c => Nesting.isDelimiter c = false) (by decide)
    (Text.mem_isBlank blank member)

theorem Free.of_isBlank (plain : operator.Plain) (blank : Text.isBlank text = true) :
    operator.Free text :=
  .of_unused plain fun _ member => plain.unused_of_isBlank (Text.mem_isBlank blank member)

theorem isBoundary_of_isBlank {c? : Option Char}
    (blank : ∀ c, c? = some c → Character.isBlank c = true) : isBoundary c? = true := by
  cases c? with
  | none => rfl
  | some c => simp [isBoundary, Character.isWord_of_isBlank (blank c rfl)]

theorem free_spaced_iff (plain : operator.Plain) (blankBefore : Text.isBlank before = true)
    (blankAfter : Text.isBlank after = true) :
    operator.Free (before ++ text ++ after) ↔ operator.Free text := by
  have top := Nesting.through_of_no_delimiter (undelimited_of_isBlank blankBefore) outside
  constructor
  · intro free
    have apartAfter : Apart (before ++ text) after := .inr <| isBoundary_of_isBlank
      fun _ first => Text.mem_isBlank blankAfter (List.mem_of_head? first)
    have apartBefore : Apart before text := .inl <| isBoundary_of_isBlank
      fun _ last => Text.mem_isBlank blankBefore (List.mem_of_getLast? last)
    exact (free.of_append_left plain apartAfter).of_append_right plain top apartBefore
  · intro free
    apply Free.append_of_unused plain
    · exact (Free.of_isBlank plain blankBefore).append free top
        (.of_left fun _ last => plain.unused_of_isBlank
          (Text.mem_isBlank blankBefore (List.mem_of_getLast? last)))
    · exact fun _ member => plain.unused_of_isBlank (Text.mem_isBlank blankAfter member)

theorem free_trim_iff (plain : operator.Plain) :
    operator.Free (Text.trim text) ↔ operator.Free text := by
  rcases Text.exists_trim text with ⟨before, after, blankBefore, blankAfter, equal⟩
  conv => rhs; rw [equal]
  exact (free_spaced_iff plain blankBefore blankAfter).symm

/-! The parts of a text at an operator that stands in it. -/

/-- An operator does not change the nesting. -/
theorem Stands.through_token (plain : operator.Plain)
    (stands : operator.Stands before token after) :
    outside.through (before ++ token) = outside := by
  rw [Nesting.through_append, stands.top]
  exact Nesting.through_of_no_delimiter
    (fun c member => plain.undelimited c (stands.written.uses c member)) outside

theorem Stands.apart_before (plain : operator.Plain)
    (stands : operator.Stands before token after) : Apart before (token ++ after) := by
  cases stands.written with
  | symbol =>
      rcases symbolEqual : operator.symbol with _ | ⟨c, rest⟩
      · exact absurd symbolEqual plain.symbolNonempty
      · exact .inr (by simp [isBoundary, plain.symbolApart c (by simp [symbolEqual])])
  | word _ _ boundaryBefore _ => exact .inl boundaryBefore

theorem Stands.apart_after (plain : operator.Plain)
    (stands : operator.Stands before token after) : Apart (before ++ token) after := by
  cases stands.written with
  | symbol =>
      rcases List.eq_nil_or_concat operator.symbol with nothing | ⟨others, c, ends⟩
      · exact absurd nothing plain.symbolNonempty
      · exact .inl (by simp [ends, isBoundary, plain.symbolApart c (by simp [ends])])
  | word _ _ _ boundaryAfter => exact .inr boundaryAfter

/-- What a text is free of, both sides of an operator in it are free of too. -/
theorem Stands.free_parts {other : Operator} (plain : operator.Plain)
    (otherPlain : other.Plain) (stands : operator.Stands before token after)
    (free : other.Free (before ++ token ++ after)) :
    other.Free before ∧ other.Free after := by
  constructor
  · rw [List.append_assoc] at free
    exact free.of_append_left otherPlain (stands.apart_before plain)
  · exact free.of_append_right otherPlain (stands.through_token plain)
      (stands.apart_after plain)

end RobotRules.Operator
