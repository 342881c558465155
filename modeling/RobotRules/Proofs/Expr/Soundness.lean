import RobotRules.Proofs.Expr.Grammar
import RobotRules.Proofs.Expr.Reading
import RobotRules.Proofs.Result

/-! Whatever is read is an expression of the grammar, and its tree is the tree that
is built. Each step of reading is sound if the reader for the parts is. -/

namespace RobotRules.Expr

open Nesting (Closed)
open Operator (mark Free)
open Result (bind_eq_ok_iff mapM_eq_ok_iff)

variable {text : Text} {tree : Expr}

/-- What is primary is an expression of every level. -/
theorem Derives.of_primary {level : Level} (derives : Derives .primary text tree) :
    Derives level text tree := by
  cases level with
  | disjunction => exact .tighter (.tighter (.tighter derives))
  | conjunction => exact .tighter (.tighter derives)
  | equality => exact .tighter derives
  | primary => exact derives

/-- What an operator joins is an expression of every level that is not too tight for
the operator. -/
theorem Derives.of_equality {level : Level} (derives : Derives .equality text tree)
    (allowed : Operator.equality ∉ level.looser) : Derives level text tree := by
  cases level with
  | disjunction => exact .tighter (.tighter derives)
  | conjunction => exact .tighter derives
  | equality => exact derives
  | primary => exact absurd (by simp) allowed

theorem Derives.of_conjunction {level : Level} (derives : Derives .conjunction text tree)
    (allowed : Operator.conjunction ∉ level.looser) : Derives level text tree := by
  cases level with
  | disjunction => exact .tighter derives
  | conjunction => exact derives
  | equality => exact absurd (by simp) allowed
  | primary => exact absurd (by simp) allowed

theorem Derives.of_disjunction {level : Level} (derives : Derives .disjunction text tree)
    (allowed : Operator.disjunction ∉ level.looser) : Derives level text tree := by
  cases level with
  | disjunction => exact derives
  | conjunction => exact absurd (by simp) allowed
  | equality => exact absurd (by simp) allowed
  | primary => exact absurd (by simp) allowed

theorem Derives.primary_of_literal {level : Level} {value : Text}
    (derives : Derives level text tree) (literal : tree = .literal value) :
    Derives .primary text tree := by
  induction derives with
  | spaced blankBefore blankAfter _ induction =>
      exact .spaced blankBefore blankAfter (induction literal)
  | tighter _ induction => exact induction literal
  | or => exact absurd literal (by simp)
  | and => exact absurd literal (by simp)
  | equals => exact absurd literal (by simp)
  | literal unquoted => exact .literal unquoted
  | matching => exact absurd literal (by simp)
  | capture => exact absurd literal (by simp)
  | captureAt => exact absurd literal (by simp)
  | callEmpty => exact absurd literal (by simp)
  | call => exact absurd literal (by simp)

/-- White space around a text makes no difference. -/
theorem Derives.of_trim {level : Level} (derives : Derives level (Text.trim text) tree) :
    Derives level text tree := by
  rcases Text.exists_trim text with ⟨before, after, blankBefore, blankAfter, equal⟩
  rw [equal]
  exact .spaced blankBefore blankAfter derives

section Steps

variable {read : Text → Except ParseError Expr}

/-- What the reader reads is derived, for texts that are shorter than the bound. -/
def SoundBelow (read : Text → Except ParseError Expr) (bound : Nat) : Prop :=
  ∀ {part : Text} {tree : Expr}, part.length < bound → read part = .ok tree →
    ∀ {level : Level}, (∀ operator ∈ level.looser, operator.Free part) →
    Derives level part tree

theorem readPattern_eq_ok_iff {builtin argument pattern : Text} :
    readPattern read builtin argument = .ok pattern ↔
      read argument = .ok (.literal pattern) := by
  unfold readPattern
  split <;> simp_all

/-- The operands of an operator that was found. -/
theorem exists_of_readOperands_eq_ok {make : Expr → Expr → Expr} {left token right : Text}
    (found : readOperands read make (left ++ token ++ right)
      ⟨left.length, token.length⟩ = .ok tree) :
    ∃ leftTree rightTree, read left = .ok leftTree ∧ read right = .ok rightTree ∧
      tree = make leftTree rightTree := by
  unfold readOperands at found
  rw [around_operator] at found
  rcases bind_eq_ok_iff.mp found with ⟨leftTree, leftRead, found⟩
  rcases bind_eq_ok_iff.mp found with ⟨rightTree, rightRead, found⟩
  exact ⟨leftTree, rightTree, leftRead, rightRead, (Except.ok.inj found).symm⟩

variable {body : Text}

/-- The arguments that are found in a closed text, and what is derived for them. -/
theorem SoundBelow.exists_arguments (sound : SoundBelow read (body.length + 1))
    (closed : Closed body) {arguments : List Text}
    (found : Nesting.splitArguments body = arguments) (nonempty : arguments ≠ []) :
    ∃ parts, arguments = parts.map Text.trim ∧ body = Text.join [','] parts ∧
      (∀ part ∈ parts, Closed part ∧ (mark ',').Free part) ∧
      ∀ part ∈ parts, ∀ tree, read (Text.trim part) = .ok tree →
        Derives .disjunction part tree := by
  rcases Nesting.exists_of_splitArguments_eq closed found nonempty with
    ⟨parts, trimmed, joined, each⟩
  refine ⟨parts, trimmed, joined, each, fun part member tree read => ?_⟩
  have inArguments : Text.trim part ∈ Nesting.splitArguments body := by
    rw [found, trimmed]
    exact List.mem_map_of_mem member
  have shorter := Nat.lt_succ_of_le (length_le_of_mem_splitArguments inArguments)
  exact .of_trim (sound shorter read (by simp))

theorem exists_of_map_eq_pair {parts : List Text} {first second : Text}
    (equal : [first, second] = parts.map Text.trim) :
    ∃ first' second', parts = [first', second'] ∧ first = Text.trim first' ∧
      second = Text.trim second' := by
  rcases parts with _ | ⟨first', _ | ⟨second', _ | ⟨third, others⟩⟩⟩
  · simp at equal
  · simp at equal
  · simpa using equal
  · simp at equal

/-- Of two arguments the first is a pattern in quotes, and the second is a text. -/
theorem SoundBelow.exists_pattern_and_text (sound : SoundBelow read (body.length + 1))
    (closed : Closed body) {builtin pattern text value : Text} {inner : Expr}
    (arguments : Nesting.splitArguments body = [pattern, text])
    (patternRead : readPattern read builtin pattern = .ok value)
    (textRead : read text = .ok inner) :
    ∃ first second, body = Text.join [','] [first, second] ∧
      Derives .primary first (.literal value) ∧ Derives .disjunction second inner := by
  rcases sound.exists_arguments closed arguments (by simp) with ⟨parts, trimmed, joined, _, derived⟩
  rcases exists_of_map_eq_pair trimmed with ⟨first, second, equal, isPattern, isText⟩
  subst equal isPattern isText
  have literal := derived first (by simp) _ (readPattern_eq_ok_iff.mp patternRead)
  exact ⟨first, second, joined, literal.primary_of_literal rfl, derived second (by simp) _ textRead⟩

theorem readMatching_sound (closed : Closed body)
    (sound : SoundBelow read (body.length + 1))
    (found : readMatching read body = .ok tree) :
    Derives .primary (matchingName ++ ('(' :: body ++ [')'])) tree := by
  unfold readMatching at found
  split at found
  · rename_i pattern text arguments
    rcases bind_eq_ok_iff.mp found with ⟨value, patternRead, found⟩
    rcases bind_eq_ok_iff.mp found with ⟨inner, textRead, found⟩
    rcases sound.exists_pattern_and_text closed arguments patternRead textRead with
      ⟨first, second, rfl, literal, derived⟩
    rw [← Except.ok.inj found]
    exact .matching literal derived
  · simp at found

theorem readCapture_sound (closed : Closed body)
    (sound : SoundBelow read (body.length + 1))
    (found : readCapture read body = .ok tree) :
    Derives .primary (captureName ++ ('(' :: body ++ [')'])) tree := by
  unfold readCapture at found
  split at found
  · rename_i pattern text arguments
    rcases bind_eq_ok_iff.mp found with ⟨value, patternRead, found⟩
    rcases bind_eq_ok_iff.mp found with ⟨inner, textRead, found⟩
    rcases sound.exists_pattern_and_text closed arguments patternRead textRead with
      ⟨first, second, rfl, literal, derived⟩
    rw [← Except.ok.inj found]
    exact .capture literal derived
  · rename_i pattern text index arguments
    rcases sound.exists_arguments closed arguments (by simp) with
      ⟨parts, trimmed, joined, each, derived⟩
    rcases parts with _ | ⟨first, parts⟩
    · simp at trimmed
    · rw [List.map_cons, List.cons.injEq] at trimmed
      rcases exists_of_map_eq_pair trimmed.2 with ⟨second, third, equal, isText, isIndex⟩
      have isPattern := trimmed.1
      subst equal isPattern isText isIndex joined
      rcases bind_eq_ok_iff.mp found with ⟨value, patternRead, found⟩
      rcases bind_eq_ok_iff.mp found with ⟨inner, textRead, found⟩
      rw [← Except.ok.inj found]
      have literal := derived first (by simp) _ (readPattern_eq_ok_iff.mp patternRead)
      have index := each third (by simp)
      exact .captureAt (literal.primary_of_literal rfl)
        (derived second (by simp) _ textRead) index.1 index.2
  · simp at found

/-! A call. -/

theorem isBoundary_head?_of_isBlank {blank rest : Text} {c : Char}
    (isBlank : Text.isBlank blank = true) (apart : Character.isWord c = false) :
    Operator.isBoundary (blank ++ c :: rest).head? = true := by
  cases blank with
  | nil => simp [Operator.isBoundary, apart]
  | cons d others =>
      have blankFirst := Text.mem_isBlank isBlank (c := d) (by simp)
      simp [Operator.isBoundary, Character.isWord_of_isBlank blankFirst]

theorem isBoundary_getLast?_of_isBlank {blank front : Text} {c : Char}
    (isBlank : Text.isBlank blank = true) (apart : Character.isWord c = false) :
    Operator.isBoundary (front ++ c :: blank).getLast? = true := by
  rcases List.eq_nil_or_concat blank with nothing | ⟨others, d, ends⟩
  · simp [nothing, Operator.isBoundary, apart]
  · have blankLast := Text.mem_isBlank isBlank (c := d) (by simp [ends])
    have last : (front ++ c :: blank).getLast? = some d := by
      rw [ends, List.concat_eq_append, ← List.cons_append, ← List.append_assoc,
        List.getLast?_concat]
    simp [last, Operator.isBoundary, Character.isWord_of_isBlank blankLast]

theorem isName_of_free {name before after : Text} (identifier : isIdentifier name = true)
    (free : ∀ operator ∈ Level.equality.looser, operator.Free text)
    (equal : text = before ++ name ++ after)
    (boundaryBefore : Operator.isBoundary before.getLast? = true)
    (boundaryAfter : Operator.isBoundary after.head? = true)
    (top : Nesting.outside.through before = Nesting.outside) : IsName name where
  identifier := identifier
  notDisjunction spelled := free .disjunction (by simp) before name after equal
    ⟨top, .word (by decide) spelled boundaryBefore boundaryAfter⟩
  notConjunction spelled := free .conjunction (by simp) before name after equal
    ⟨top, .word (by decide) spelled boundaryBefore boundaryAfter⟩

/-- What `callParts?` finds is the head of a call, if no operator stands in it. -/
theorem exists_of_callParts?_eq_some {receiver method fromParenthesis : Text}
    (free : ∀ operator ∈ Level.equality.looser, operator.Free text)
    (parts : callParts? text = some (receiver, method, fromParenthesis))
    (identifierReceiver : isIdentifier receiver = true)
    (identifierMethod : isIdentifier method = true) :
    ∃ before head rest, text = before ++ head ++ '(' :: rest ∧
      Text.isBlank before = true ∧ CallHead receiver method head ∧
      fromParenthesis = '(' :: rest := by
  rcases callParts?_eq_some_iff.mp parts with
    ⟨front, middle, rest, equal, _, _, _, isReceiver, isMethod, isRest⟩
  rcases Text.exists_trim front with ⟨before, afterReceiver, blankBefore, blankReceiver, cut⟩
  rcases Text.exists_trim middle with
    ⟨beforeMethod, afterMethod, blankMethod, blankAfter, cutMiddle⟩
  rw [← isReceiver] at cut
  rw [← isMethod] at cutMiddle
  rw [cut, cutMiddle] at equal
  have undelimited := Operator.undelimited_of_isBlank blankBefore
  have atReceiver : text = before ++ receiver ++
      (afterReceiver ++ '.' :: (beforeMethod ++ method ++ afterMethod ++ '(' :: rest)) := by
    simp [equal]
  have atMethod : text = (before ++ receiver ++ afterReceiver ++ '.' :: beforeMethod) ++
      method ++ (afterMethod ++ '(' :: rest) := by
    simp [equal]
  have nameReceiver : IsName receiver :=
    isName_of_free identifierReceiver free atReceiver
      (Operator.isBoundary_of_isBlank fun _ last =>
        Text.mem_isBlank blankBefore (List.mem_of_getLast? last))
      (isBoundary_head?_of_isBlank blankReceiver (by decide))
      (Nesting.through_of_no_delimiter undelimited _)
  have nameMethod : IsName method := by
    refine isName_of_free identifierMethod free atMethod
      (isBoundary_getLast?_of_isBlank blankMethod (by decide))
      (isBoundary_head?_of_isBlank blankAfter (by decide))
      (Nesting.through_of_no_delimiter (fun c member => ?_) _)
    simp only [List.mem_append, List.mem_cons] at member
    rcases member with ((inBefore | inReceiver) | blank) | point | blank
    · exact undelimited c inBefore
    · exact nameReceiver.undelimited c inReceiver
    · exact Operator.undelimited_of_isBlank blankReceiver c blank
    · subst point
      decide
    · exact Operator.undelimited_of_isBlank blankMethod c blank
  refine ⟨before, _, rest, ?_, blankBefore, .intro nameReceiver nameMethod blankReceiver
    blankMethod blankAfter, isRest⟩
  rw [equal]
  simp

theorem readCall_sound (sound : SoundBelow read text.length)
    (free : ∀ operator ∈ Level.equality.looser, operator.Free text)
    (found : readCall read text = .ok tree) : Derives .primary text tree := by
  unfold readCall at found
  split at found
  · simp at found
  · rename_i receiver method fromParenthesis parts
    split_ifs at found with unnamed unbalanced
    simp only [Bool.or_eq_true, Bool.not_eq_true', not_or, Bool.not_eq_false] at unnamed
    simp only [Bool.not_eq_true', Bool.not_eq_false] at unbalanced
    rcases exists_of_callParts?_eq_some free parts unnamed.1 unnamed.2 with
      ⟨before, head, rest, equal, blank, callHead, isRest⟩
    rw [isRest] at unbalanced found
    rcases Nesting.closesAtEnd_iff.mp unbalanced with ⟨body, isBody, closed⟩
    subst isBody
    rcases bind_eq_ok_iff.mp found with ⟨trees, argumentsRead, found⟩
    rw [← Except.ok.inj found]
    rw [List.tail_cons, List.dropLast_concat] at argumentsRead
    suffices derived : Derives .primary (head ++ ('(' :: body ++ [')']))
        (.call receiver method trees) by
      have spaced := Derives.spaced blank Text.isBlank_nil derived
      rw [List.append_nil, ← List.append_assoc] at spaced
      exact equal ▸ spaced
    rcases arguments : Nesting.splitArguments body with _ | ⟨first, others⟩
    · rw [arguments] at argumentsRead
      rw [← Except.ok.inj argumentsRead, ← Nesting.join_singleton [','] body]
      exact .callEmpty callHead (Nesting.isBlank_of_splitArguments_eq_nil arguments)
    · have soundBody : SoundBelow read (body.length + 1) := fun shorter =>
        sound (by simp [equal]; omega)
      rcases soundBody.exists_arguments closed arguments (by simp) with
        ⟨parts, trimmed, joined, _, derived⟩
      rw [arguments, trimmed, mapM_eq_ok_iff, List.forall₂_map_left_iff,
        List.forall₂_iff_zip] at argumentsRead
      have pairs := @Derives.call _ _ _ (parts.zip trees) callHead
      rw [List.map_fst_zip argumentsRead.1.le, List.map_snd_zip argumentsRead.1.ge]
        at pairs
      rw [joined]
      apply pairs
      · intro nothing
        have noPairs := congrArg List.length nothing
        have noParts := congrArg List.length trimmed
        simp only [List.length_zip, List.length_nil] at noPairs
        simp only [List.length_cons, List.length_map] at noParts
        omega
      · rintro ⟨part, value⟩ member
        exact derived part (List.of_mem_zip member).1 value (argumentsRead.2 member)

/-! Everything else. -/

section Operands

variable {operator : Operator} {make : Expr → Expr → Expr} {left token right : Text}

/-- The parts of a text at an operator, if they are read. -/
theorem exists_derived_operands (plain : operator.Plain)
    (stands : operator.Stands left token right)
    (sound : SoundBelow read (left ++ token ++ right).length)
    (found : readOperands read make (left ++ token ++ right)
      ⟨left.length, token.length⟩ = .ok tree) :
    ∃ leftTree rightTree, tree = make leftTree rightTree ∧
      (∀ level : Level, (∀ other ∈ level.looser, other.Free left) →
        Derives level left leftTree) ∧
      (∀ level : Level, (∀ other ∈ level.looser, other.Free right) →
        Derives level right rightTree) := by
  rcases exists_of_readOperands_eq_ok found with
    ⟨leftTree, rightTree, leftRead, rightRead, isMade⟩
  have positive := List.length_pos_iff.mpr (stands.written.nonempty plain)
  refine ⟨leftTree, rightTree, isMade, fun level => ?_, fun level => ?_⟩
  · exact sound (by simp only [List.length_append]; omega) leftRead
  · exact sound (by simp only [List.length_append]; omega) rightRead

/-- At the last operator of disjunction a disjunction is read. -/
theorem readOperands_or_sound (stands : Operator.disjunction.Stands left token right)
    (freeRight : Operator.disjunction.Free right)
    (sound : SoundBelow read (left ++ token ++ right).length)
    (found : readOperands read .or (left ++ token ++ right)
      ⟨left.length, token.length⟩ = .ok tree) :
    Derives .disjunction (left ++ token ++ right) tree := by
  rcases exists_derived_operands Operator.plain_disjunction stands sound found with
    ⟨leftTree, rightTree, isOr, derivedLeft, derivedRight⟩
  rw [isOr]
  refine .or (derivedLeft .disjunction ?_) (derivedRight .conjunction ?_) stands.written
  · simp [Level.looser]
  · simpa using freeRight

/-- At the last operator of conjunction a conjunction is read, if there is no
disjunction. -/
theorem readOperands_and_sound (stands : Operator.conjunction.Stands left token right)
    (noDisjunction : Operator.disjunction.Free (left ++ token ++ right))
    (freeRight : Operator.conjunction.Free right)
    (sound : SoundBelow read (left ++ token ++ right).length)
    (found : readOperands read .and (left ++ token ++ right)
      ⟨left.length, token.length⟩ = .ok tree) :
    Derives .conjunction (left ++ token ++ right) tree := by
  have freeParts := stands.free_parts Operator.plain_conjunction
    Operator.plain_disjunction noDisjunction
  rcases exists_derived_operands Operator.plain_conjunction stands sound found with
    ⟨leftTree, rightTree, isAnd, derivedLeft, derivedRight⟩
  rw [isAnd]
  refine .and (derivedLeft .conjunction ?_) (derivedRight .equality ?_) stands.written
  · simpa using freeParts.1
  · simpa using ⟨freeParts.2, freeRight⟩

/-- At the only operator of equality an equality is read, if there is no looser
operator. -/
theorem readOperands_equals_sound (stands : Operator.equality.Stands left token right)
    (noDisjunction : Operator.disjunction.Free (left ++ token ++ right))
    (noConjunction : Operator.conjunction.Free (left ++ token ++ right))
    (freeLeft : Operator.equality.Free left) (freeRight : Operator.equality.Free right)
    (sound : SoundBelow read (left ++ token ++ right).length)
    (found : readOperands read .equals (left ++ token ++ right)
      ⟨left.length, token.length⟩ = .ok tree) :
    Derives .equality (left ++ token ++ right) tree := by
  have ofDisjunction := stands.free_parts Operator.plain_equality
    Operator.plain_disjunction noDisjunction
  have ofConjunction := stands.free_parts Operator.plain_equality
    Operator.plain_conjunction noConjunction
  rcases exists_derived_operands Operator.plain_equality stands sound found with
    ⟨leftTree, rightTree, isEquals, derivedLeft, derivedRight⟩
  rw [isEquals]
  refine .equals (derivedLeft .primary ?_) (derivedRight .primary ?_) stands.written
  · simpa using ⟨ofDisjunction.1, ofConjunction.1, freeLeft⟩
  · simpa using ⟨ofDisjunction.2, ofConjunction.2, freeRight⟩

end Operands

theorem readCompound_sound (sound : SoundBelow read text.length)
    (found : readCompound read text = .ok tree) {level : Level}
    (free : ∀ operator ∈ level.looser, operator.Free text) : Derives level text tree := by
  unfold readCompound at found
  split at found
  · rename_i span last
    rcases Operator.exists_of_last?_eq_some Operator.plain_disjunction last with
      ⟨left, token, right, equal, place, stands, freeRight⟩
    subst equal place
    exact (readOperands_or_sound stands freeRight sound found).of_disjunction
      fun member => free _ member left token right rfl stands
  · rename_i span noDisjunction last
    rw [Operator.last?_eq_none_iff Operator.plain_disjunction] at noDisjunction
    rcases Operator.exists_of_last?_eq_some Operator.plain_conjunction last with
      ⟨left, token, right, equal, place, stands, freeRight⟩
    subst equal place
    exact (readOperands_and_sound stands noDisjunction freeRight sound found).of_conjunction
      fun member => free _ member left token right rfl stands
  · rename_i noDisjunction noConjunction
    rw [Operator.last?_eq_none_iff Operator.plain_disjunction] at noDisjunction
    rw [Operator.last?_eq_none_iff Operator.plain_conjunction] at noConjunction
    split at found
    · rename_i span single
      rcases Operator.exists_of_occurrences_eq_singleton Operator.plain_equality single with
        ⟨left, token, right, equal, place, stands, freeLeft, freeRight⟩
      subst equal place
      have whole := readOperands_equals_sound stands noDisjunction noConjunction freeLeft
        freeRight sound found
      exact whole.of_equality fun member => free _ member left token right rfl stands
    · simp at found
    · split_ifs at found
      refine (readCall_sound sound ?_ found).of_primary
      simpa using ⟨noDisjunction, noConjunction⟩

theorem readTrimmed_sound (sound : SoundBelow read text.length)
    (found : readTrimmed read text = .ok tree) {level : Level}
    (free : ∀ operator ∈ level.looser, operator.Free text) : Derives level text tree := by
  unfold readTrimmed at found
  have inside : ∀ {name body : Text}, builtinBody? name text = some body →
      SoundBelow read (body.length + 1) := fun isBuiltin _ _ shorter =>
    sound (by have bound := length_of_builtinBody? isBuiltin; omega)
  split_ifs at found
  split at found
  · rename_i value isLiteral
    rw [← Except.ok.inj found]
    rcases literalBody?_eq_some_iff.mp isLiteral with ⟨equal, unquoted⟩
    exact equal ▸ (Derives.literal unquoted).of_primary
  · rename_i body _ isMatching
    rcases builtinBody?_eq_some_iff.mp isMatching with ⟨equal, closed⟩
    exact equal ▸ (readMatching_sound closed (inside isMatching) found).of_primary
  · rename_i body _ _ isCapture
    rcases builtinBody?_eq_some_iff.mp isCapture with ⟨equal, closed⟩
    exact equal ▸ (readCapture_sound closed (inside isCapture) found).of_primary
  · exact readCompound_sound sound found free

end Steps

/-- What is read of a text has a derivation, of any level whose looser operators do not
stand in the text. -/
theorem derives_of_parse {level : Level} (found : parse text = .ok tree)
    (free : ∀ operator ∈ level.looser, operator.Free text) : Derives level text tree := by
  -- The parts are read trimmed, so that they are shorter texts but not parts of this one.
  induction length : text.length using Nat.strong_induction_on
    generalizing text tree level with
  | _ length induction =>
      rw [parse_eq] at found
      refine .of_trim (readTrimmed_sound (fun shorter partRead _ partFree => ?_) found ?_)
      · have bound := Text.length_trim_le text
        exact induction _ (by omega) partRead partFree rfl
      · intro operator member
        have absent : operator ∈ level.absent :=
          List.mem_cons_of_mem _ (List.mem_cons_of_mem _ member)
        have plain := Level.plain_of_mem_absent absent
        exact (Operator.free_trim_iff plain).mpr (free operator member)

end RobotRules.Expr
