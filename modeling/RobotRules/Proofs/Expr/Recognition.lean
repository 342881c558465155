import RobotRules.Proofs.Expr.Soundness

/-! Every expression of the grammar is read, and reading builds its tree. Together
with soundness this says what is read at all: the texts that have a derivation. -/

namespace RobotRules.Expr

open Nesting (Closed isDelimiter)
open Operator (mark Free Stands)

variable {read : Text → Except ParseError Expr} {text left token right : Text}

/-! White space. -/

theorem parse_trim (text : Text) : parse (Text.trim text) = parse text := by
  rw [parse_eq, Text.trim_trim, ← parse_eq]

theorem parse_trimStart (text : Text) : parse (Text.trimStart text) = parse text := by
  rcases Text.exists_trimStart text with ⟨before, blank, equal⟩
  have padded := parse_append_blank blank Text.isBlank_nil (Text.trimStart text)
  rw [List.append_nil, ← equal] at padded
  exact padded.symm

theorem parse_trimEnd (text : Text) : parse (Text.trimEnd text) = parse text := by
  rcases Text.exists_trimEnd text with ⟨after, blank, equal⟩
  have padded := parse_append_blank Text.isBlank_nil blank (Text.trimEnd text)
  rw [List.nil_append, ← equal] at padded
  exact padded.symm

/-! Texts with an operator at the top. -/

theorem literalBody?_of_stands {operator : Operator} (plain : operator.Plain)
    (stands : operator.Stands left token right) :
    literalBody? (left ++ token ++ right) = none := by
  rw [Option.eq_none_iff_forall_not_mem]
  intro value found
  rcases literalBody?_eq_some_iff.mp found with ⟨equal, unquoted⟩
  refine Free.of_enclosed plain (Nesting.enclosed_quotes unquoted) (fun c first => ?_)
    left token right equal.symm stands
  have quote : '"' = c := by simpa using first
  exact plain.unused_of_delimiter (quote ▸ rfl)

theorem builtinBody?_of_stands {operator : Operator} {name : Text} (isName : IsName name)
    (member : operator ∈ Level.primary.absent) (stands : operator.Stands left token right) :
    builtinBody? name (left ++ token ++ right) = none := by
  rw [Option.eq_none_iff_forall_not_mem]
  intro body found
  rcases builtinBody?_eq_some_iff.mp found with ⟨equal, closed⟩
  have shape : Shape .primary (applied name [body]) := .builtin isName (by simp [closed])
  refine shape.free operator member left token right ?_ stands
  rw [equal, applied, Nesting.join_singleton]

theorem readTrimmed_of_stands {operator : Operator} (member : operator ∈ Level.primary.absent)
    (stands : operator.Stands left token right) :
    readTrimmed read (left ++ token ++ right) = readCompound read (left ++ token ++ right) := by
  have plain := Level.plain_of_mem_absent member
  have nonempty : ¬(left ++ token ++ right).isEmpty = true := by
    simp [stands.written.nonempty plain]
  unfold readTrimmed
  rw [if_neg nonempty, literalBody?_of_stands plain stands,
    builtinBody?_of_stands isName_matchingName member stands,
    builtinBody?_of_stands isName_captureName member stands]

theorem readCompound_disjunction (shapeLeft : Shape .disjunction left)
    (shapeRight : Shape .conjunction right)
    (stands : Operator.disjunction.Stands left token right) :
    readCompound read (left ++ token ++ right) =
      readOperands read .or (left ++ token ++ right) ⟨left.length, token.length⟩ := by
  have plain := Operator.plain_disjunction
  have last := Operator.last?_of_stands plain stands
    (fun _ => shapeLeft.unused_last plain)
    (shapeRight.free .disjunction (by simp))
  unfold readCompound
  rw [last]

theorem readCompound_conjunction (shapeLeft : Shape .conjunction left)
    (shapeRight : Shape .equality right)
    (stands : Operator.conjunction.Stands left token right) :
    readCompound read (left ++ token ++ right) =
      readOperands read .and (left ++ token ++ right) ⟨left.length, token.length⟩ := by
  have plain := Operator.plain_conjunction
  have shape : Shape .conjunction (left ++ token ++ right) :=
    .binary plain (Operator.of_uses (by decide)) shapeLeft (.of_tighter shapeRight)
      stands.written
  have noDisjunction := (Operator.last?_eq_none_iff Operator.plain_disjunction).mpr
    (shape.free .disjunction (by simp))
  have last := Operator.last?_of_stands plain stands
    (fun _ => shapeLeft.unused_last plain)
    (shapeRight.free .conjunction (by simp))
  unfold readCompound
  rw [noDisjunction, last]

theorem readCompound_equality (shapeLeft : Shape .primary left)
    (shapeRight : Shape .primary right)
    (stands : Operator.equality.Stands left token right) :
    readCompound read (left ++ token ++ right) =
      readOperands read .equals (left ++ token ++ right) ⟨left.length, token.length⟩ := by
  have plain := Operator.plain_equality
  have shape : Shape .equality (left ++ token ++ right) :=
    .binary plain (Operator.of_uses (by decide)) (.of_tighter shapeLeft)
      (.of_tighter shapeRight) stands.written
  have noDisjunction := (Operator.last?_eq_none_iff Operator.plain_disjunction).mpr
    (shape.free .disjunction (by simp))
  have noConjunction := (Operator.last?_eq_none_iff Operator.plain_conjunction).mpr
    (shape.free .conjunction (by simp))
  have single := Operator.occurrences_of_stands plain stands
    (fun _ => shapeLeft.unused_last plain)
    (shapeLeft.free .equality (by simp))
    (shapeRight.free .equality (by simp))
  unfold readCompound
  rw [noDisjunction, noConjunction, single]

/-- Two operands that are read, with an operator between them at which the text is
cut once its white space is taken off. -/
theorem parse_binary {operator : Operator} {make : Expr → Expr → Expr} {level level' : Level}
    {leftTree rightTree : Expr} (member : operator ∈ Level.primary.absent)
    (cut : ∀ {left right : Text}, Shape level left → Shape level' right →
      operator.Stands left token right → readCompound parse (left ++ token ++ right) =
        readOperands parse make (left ++ token ++ right) ⟨left.length, token.length⟩)
    (shapeLeft : Shape level left) (shapeRight : Shape level' right)
    (written : operator.Written left right token)
    (leftReads : parse left = .ok leftTree) (rightReads : parse right = .ok rightTree) :
    parse (left ++ token ++ right) = .ok (make leftTree rightTree) := by
  have stands : operator.Stands (Text.trimStart left) token (Text.trimEnd right) := by
    refine ⟨shapeLeft.trimStart.closed.returns, ?_⟩
    rcases Text.exists_trimStart left with ⟨before, _, start⟩
    rcases Text.exists_trimEnd right with ⟨after, _, finish⟩
    rw [start] at written
    have inner := written.of_before
    rw [finish] at inner
    exact inner.of_after
  rw [parse_eq, Text.trim_append_append shapeLeft.not_isBlank shapeRight.not_isBlank,
    readTrimmed_of_stands member stands, cut shapeLeft.trimStart shapeRight.trimEnd stands]
  unfold readOperands
  rw [around_operator]
  dsimp only
  rw [parse_trimStart, parse_trimEnd, leftReads, rightReads]
  rfl

/-! Literals, built-in functions and calls. -/

theorem parse_literal {value : Text} (unquoted : '"' ∉ value) :
    parse ('"' :: value ++ ['"']) = .ok (.literal value) := by
  have trimmed : Text.trim ('"' :: value ++ ['"']) = '"' :: value ++ ['"'] := by
    apply Text.trim_eq_self
    · intro c first
      have quote : '"' = c := by simpa using first
      exact quote ▸ rfl
    · intro c last
      rw [List.getLast?_concat] at last
      exact Option.some.inj last ▸ rfl
  rw [parse_eq, trimmed]
  unfold readTrimmed
  rw [literalBody?_eq_some_iff.mpr ⟨rfl, unquoted⟩]
  simp

section Applied

variable {head : Text} {arguments : List Text}

theorem visible_of_isIdentifier {c : Char} (identifier : Character.isIdentifier c = true) :
    Character.isBlank c = false := by
  by_contra blank
  have isWord := Character.isWord_of_isIdentifier identifier
  rw [Character.isWord_of_isBlank (by simpa using blank)] at isWord
  exact absurd isWord (by simp)

/-- What begins as a name does: with a character of names. -/
def BeginsAsName (head : Text) : Prop :=
  ∃ c rest, head = c :: rest ∧ Character.isIdentifier c = true

theorem IsName.begins {text : Text} (name : IsName text) : BeginsAsName text := by
  cases text with
  | nil => exact absurd rfl name.nonempty
  | cons c rest => exact ⟨c, rest, rfl, mem_isIdentifier name.identifier c (by simp)⟩

theorem CallHead.begins {receiver method : Text} (callHead : CallHead receiver method head) :
    BeginsAsName head := by
  rcases callHead with ⟨isReceiver, _, _, _, _⟩
  rcases isReceiver.begins with ⟨c, rest, equal, identifier⟩
  exact ⟨c, _, by rw [equal, List.cons_append, List.cons_append], identifier⟩

theorem trim_applied (begins : BeginsAsName head) :
    Text.trim (applied head arguments) = applied head arguments := by
  rcases begins with ⟨c, rest, equal, identifier⟩
  apply Text.trim_eq_self
  · intro d first
    have same : c = d := by simpa [applied, equal] using first
    exact same ▸ visible_of_isIdentifier identifier
  · intro d last
    rw [applied, ← List.append_assoc, List.getLast?_concat] at last
    exact Option.some.inj last ▸ rfl

theorem literalBody?_applied (begins : BeginsAsName head) :
    literalBody? (applied head arguments) = none := by
  rcases begins with ⟨c, rest, equal, identifier⟩
  rw [Option.eq_none_iff_forall_not_mem]
  intro value found
  have texts := (literalBody?_eq_some_iff.mp found).1
  rw [applied, equal] at texts
  injection texts with quote
  exact absurd (quote ▸ identifier) (by decide)

theorem not_mem_parenthesis (undelimited : ∀ c ∈ head, isDelimiter c = false) :
    '(' ∉ head := fun member => absurd (undelimited '(' member) (by decide)

theorem builtinBody?_applied_of_ne {name : Text} (isName : IsName name)
    (undelimited : ∀ c ∈ head, isDelimiter c = false) (different : head ≠ name) :
    builtinBody? name (applied head arguments) = none := by
  rw [Option.eq_none_iff_forall_not_mem]
  intro body found
  apply different
  have texts := (builtinBody?_eq_some_iff.mp found).1
  have fronts := congrArg (List.takeWhile (· != '(')) texts
  rwa [applied, List.cons_append, List.cons_append,
    Text.takeWhile_append_of_not_mem (not_mem_parenthesis undelimited),
    Text.takeWhile_append_of_not_mem (not_mem_parenthesis isName.undelimited)] at fronts

theorem builtinBody?_applied {name : Text}
    (closed : ∀ argument ∈ arguments, Closed argument) :
    builtinBody? name (applied name arguments) = some (Text.join [','] arguments) :=
  builtinBody?_eq_some_iff.mpr ⟨rfl, Nesting.closed_join (by decide) closed⟩

theorem applied_isEmpty : ¬(applied head arguments).isEmpty = true := by
  simp [applied]

theorem parse_applied_matching (closed : ∀ argument ∈ arguments, Closed argument) :
    parse (applied matchingName arguments) =
      readMatching parse (Text.join [','] arguments) := by
  rw [parse_eq, trim_applied isName_matchingName.begins]
  unfold readTrimmed
  rw [if_neg applied_isEmpty, literalBody?_applied isName_matchingName.begins,
    builtinBody?_applied closed]

theorem parse_applied_capture (closed : ∀ argument ∈ arguments, Closed argument) :
    parse (applied captureName arguments) =
      readCapture parse (Text.join [','] arguments) := by
  rw [parse_eq, trim_applied isName_captureName.begins]
  unfold readTrimmed
  rw [if_neg applied_isEmpty, literalBody?_applied isName_captureName.begins,
    builtinBody?_applied_of_ne isName_matchingName isName_captureName.undelimited (by decide),
    builtinBody?_applied closed]

/-- Nothing but a call is found in what has the head of a call. -/
theorem parse_applied_call {receiver method : Text} (callHead : CallHead receiver method head)
    (closed : ∀ argument ∈ arguments, Closed argument) :
    parse (applied head arguments) = readCall parse (applied head arguments) := by
  have shape : Shape .primary (applied head arguments) :=
    .applied callHead.undelimited (fun _ => callHead.free) closed
  have noDisjunction := (Operator.last?_eq_none_iff Operator.plain_disjunction).mpr
    (shape.free .disjunction (by simp))
  have noConjunction := (Operator.last?_eq_none_iff Operator.plain_conjunction).mpr
    (shape.free .conjunction (by simp))
  have noEquality := Operator.occurrences_of_free Operator.plain_equality
    (shape.free .equality (by simp))
  have point : '.' ∈ head := by
    rcases callHead with ⟨_, _, _, _, _⟩
    simp
  have different : ∀ {name : Text}, IsName name → head ≠ name := by
    intro name isName equal
    have identifier := mem_isIdentifier isName.identifier '.' (equal ▸ point)
    exact absurd identifier (by decide)
  rw [parse_eq, trim_applied callHead.begins]
  unfold readTrimmed readCompound
  rw [if_neg applied_isEmpty, literalBody?_applied callHead.begins,
    builtinBody?_applied_of_ne isName_matchingName callHead.undelimited
      (different isName_matchingName),
    builtinBody?_applied_of_ne isName_captureName callHead.undelimited
      (different isName_captureName), noDisjunction, noConjunction, noEquality]
  simp [applied, point]

theorem IsName.trim {text : Text} (name : IsName text) : Text.trim text = text :=
  Text.trim_eq_self
    (fun _ first => visible_of_isIdentifier
      (mem_isIdentifier name.identifier _ (List.mem_of_head? first)))
    (fun _ last => visible_of_isIdentifier
      (mem_isIdentifier name.identifier _ (List.mem_of_getLast? last)))

theorem callParts?_applied {receiver method : Text} (callHead : CallHead receiver method head) :
    callParts? (applied head arguments) =
      some (receiver, method, '(' :: (Text.join [','] arguments ++ [')'])) := by
  have undelimited := callHead.undelimited
  rcases callHead with
    @⟨afterReceiver, beforeMethod, afterMethod, isReceiver, isMethod, blankReceiver,
      blankBefore, blankAfter⟩
  rw [callParts?_eq_some_iff]
  refine ⟨receiver ++ afterReceiver, beforeMethod ++ method ++ afterMethod,
    Text.join [','] arguments ++ [')'], by simp [applied], by simp [isReceiver.nonempty],
    ?_, ?_, ?_, ?_, rfl⟩
  · intro member
    rcases List.mem_append.mp member with inName | inBlank
    · exact absurd (mem_isIdentifier isReceiver.identifier _ inName) (by decide)
    · exact absurd (Text.mem_isBlank blankReceiver inBlank) (by decide)
  · exact not_mem_parenthesis fun c member => undelimited c (by simp_all)
  · have trimmed := Text.trim_append_of_isBlank Text.isBlank_nil blankReceiver receiver
    rw [List.nil_append, isReceiver.trim] at trimmed
    exact trimmed.symm
  · rw [Text.trim_append_of_isBlank blankBefore blankAfter, isMethod.trim]

/-- What is left of reading a call is reading its arguments. -/
theorem readCall_applied {receiver method : Text} (callHead : CallHead receiver method head)
    (closed : ∀ argument ∈ arguments, Closed argument) {trees : List Expr}
    (argumentsRead : (Nesting.splitArguments (Text.join [','] arguments)).mapM read =
      .ok trees) :
    readCall read (applied head arguments) = .ok (.call receiver method trees) := by
  have closes : Nesting.closesAtEnd ('(' :: (Text.join [','] arguments ++ [')'])) = true :=
    Nesting.closesAtEnd_iff.mpr ⟨_, rfl, Nesting.closed_join (by decide) closed⟩
  have names : isIdentifier receiver = true ∧ isIdentifier method = true := by
    rcases callHead with ⟨isReceiver, isMethod, _, _, _⟩
    exact ⟨isReceiver.identifier, isMethod.identifier⟩
  unfold readCall
  rw [callParts?_applied callHead]
  simp only [names.1, names.2, closes, List.tail_cons, List.dropLast_concat, argumentsRead]
  rfl

end Applied

/-! The arguments. -/

theorem readPattern_trim {builtin part pattern : Text}
    (reads : parse part = .ok (.literal pattern)) :
    readPattern parse builtin (Text.trim part) = .ok pattern :=
  readPattern_eq_ok_iff.mpr (by rw [parse_trim, reads])

theorem mapM_trim {arguments : List (Text × Expr)}
    (reads : ∀ argument ∈ arguments, parse argument.1 = .ok argument.2) :
    ((arguments.map Prod.fst).map Text.trim).mapM parse = .ok (arguments.map Prod.snd) := by
  rw [Result.mapM_eq_ok_iff, List.map_map, List.forall₂_map_left_iff, List.forall₂_map_right_iff,
    List.forall₂_same]
  intro argument member
  rw [Function.comp_apply, parse_trim, reads argument member]

theorem parse_of_derives {level : Level} {tree : Expr} (derives : Derives level text tree) :
    parse text = .ok tree := by
  induction derives with
  | spaced blankBefore blankAfter _ reads =>
      rw [parse_append_blank blankBefore blankAfter, reads]
  | tighter _ reads => exact reads
  | or left right written leftReads rightReads =>
      exact parse_binary (by simp) readCompound_disjunction left.shape right.shape written
        leftReads rightReads
  | and left right written leftReads rightReads =>
      exact parse_binary (by simp) readCompound_conjunction left.shape right.shape written
        leftReads rightReads
  | equals left right written leftReads rightReads =>
      exact parse_binary (by simp) readCompound_equality left.shape right.shape written
        leftReads rightReads
  | literal unquoted => exact parse_literal unquoted
  | @matching first second _ _ pattern text patternReads textReads =>
      have each : ∀ part ∈ [first, second], Closed part ∧ (mark ',').Free part := by
        simp [pattern.shape.argument, text.shape.argument]
      rw [parse_applied_matching fun part member => (each part member).1]
      unfold readMatching
      rw [Nesting.splitArguments_join (by simp) pattern.shape.not_isBlank each]
      simp only [List.map_cons, List.map_nil, readPattern_trim patternReads, parse_trim,
        textReads]
      rfl
  | @capture first second _ _ pattern text patternReads textReads =>
      have each : ∀ part ∈ [first, second], Closed part ∧ (mark ',').Free part := by
        simp [pattern.shape.argument, text.shape.argument]
      rw [parse_applied_capture fun part member => (each part member).1]
      unfold readCapture
      rw [Nesting.splitArguments_join (by simp) pattern.shape.not_isBlank each]
      simp only [List.map_cons, List.map_nil, readPattern_trim patternReads, parse_trim,
        textReads]
      rfl
  | @captureAt first second index _ _ pattern text closed free patternReads textReads =>
      have each : ∀ part ∈ [first, second, index], Closed part ∧ (mark ',').Free part := by
        simp [pattern.shape.argument, text.shape.argument, closed, free]
      rw [parse_applied_capture fun part member => (each part member).1]
      unfold readCapture
      rw [Nesting.splitArguments_join (by simp) pattern.shape.not_isBlank each]
      simp only [List.map_cons, List.map_nil, readPattern_trim patternReads, parse_trim,
        textReads]
      rfl
  | @callEmpty _ _ _ inner callHead blank =>
      have closed : ∀ part ∈ [inner], Closed part := by
        simpa using .of_no_delimiter (Operator.undelimited_of_isBlank blank)
      rw [parse_applied_call callHead closed]
      apply readCall_applied callHead closed
      rw [Nesting.join_singleton, Nesting.splitArguments_of_isBlank blank]
      rfl
  | @call _ _ _ arguments callHead nonempty derived reads =>
      have each : ∀ part ∈ arguments.map Prod.fst, Closed part ∧ (mark ',').Free part := by
        intro part member
        rcases List.mem_map.mp member with ⟨argument, inArguments, equal⟩
        exact equal ▸ (derived argument inArguments).shape.argument
      have closed := fun part member => (each part member).1
      rw [parse_applied_call callHead closed]
      apply readCall_applied callHead closed
      rcases List.exists_mem_of_ne_nil arguments nonempty with ⟨argument, member⟩
      rw [Nesting.splitArguments_join (List.mem_map_of_mem member)
        (derived argument member).shape.not_isBlank each]
      exact mapM_trim reads

/-- Reading accepts exactly the expressions of the grammar and builds their trees; every
other text is refused with an error. -/
theorem parse_eq_ok_iff_derives (text : Text) :
    (∀ tree, parse text = .ok tree ↔ Derives .disjunction text tree) ∧
      ((∃ error, parse text = .error error) ↔ ∀ tree, ¬Derives .disjunction text tree) := by
  have accepts : ∀ tree, parse text = .ok tree ↔ Derives .disjunction text tree := fun tree =>
    ⟨fun found => derives_of_parse found (by simp), parse_of_derives⟩
  refine ⟨accepts, ?_⟩
  constructor
  · rintro ⟨error, refused⟩ tree derives
    rw [(accepts tree).mpr derives] at refused
    exact absurd refused (by simp)
  · intro underivable
    cases read : parse text with
    | error error => exact ⟨error, rfl⟩
    | ok tree => exact absurd ((accepts tree).mp read) (underivable tree)

end RobotRules.Expr
