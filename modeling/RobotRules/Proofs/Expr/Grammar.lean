import RobotRules.Expr.Parser
import RobotRules.Proofs.Nesting.Segments

/-! The grammar of expressions. Disjunction and conjunction lean to the left,
equality does not chain, and no parentheses stand around an expression. White space
may stand around every expression, around every argument, and between the names of a
call. -/

namespace RobotRules.Expr

open Nesting (Closed Enclosed isDelimiter outside)
open Operator (mark Spells Written Free)

/-- How loosely the parts of an expression may be bound, from the loosest operator
to expressions without one. -/
inductive Level where
  | disjunction
  | conjunction
  | equality
  | primary

namespace Level

/-- The next tighter level. -/
def tighter : Level → Level
  | disjunction => conjunction
  | conjunction => equality
  | equality | primary => primary

/-- The operators that bind more loosely than the level. -/
@[simp]
def looser : Level → List Operator
  | disjunction => []
  | conjunction => [.disjunction]
  | equality => [.disjunction, .conjunction]
  | primary => [.disjunction, .conjunction, .equality]

/-- The separators, and the operators that bind more loosely than the level. None of
these stands at the top of an expression of the level. -/
@[simp]
def absent (level : Level) : List Operator := mark ',' :: mark ';' :: level.looser

end Level

/-- The name of a receiver or of an operation. -/
structure IsName (text : Text) : Prop where
  identifier : isIdentifier text = true
  notDisjunction : ¬Spells Operator.disjunction.word text
  notConjunction : ¬Spells Operator.conjunction.word text

/-- What stands in front of the parenthesis of a call. -/
inductive CallHead (receiver method : Text) : (head : Text) → Prop
  | intro {afterReceiver beforeMethod afterMethod : Text} :
      IsName receiver → IsName method → Text.isBlank afterReceiver = true →
      Text.isBlank beforeMethod = true → Text.isBlank afterMethod = true →
      CallHead receiver method
        (receiver ++ afterReceiver ++ '.' :: (beforeMethod ++ method ++ afterMethod))

/-- A name with arguments in parentheses. -/
def applied (head : Text) (arguments : List Text) : Text :=
  head ++ ('(' :: Text.join [','] arguments ++ [')'])

/-- `text` is an expression of the level, and `tree` is its tree. -/
inductive Derives : (level : Level) → (text : Text) → (tree : Expr) → Prop
  | spaced {level : Level} {before text after : Text} {tree : Expr} :
      Text.isBlank before = true → Text.isBlank after = true →
      Derives level text tree → Derives level (before ++ text ++ after) tree
  | tighter {level : Level} {text : Text} {tree : Expr} :
      Derives level.tighter text tree → Derives level text tree
  | or {left token right : Text} {leftTree rightTree : Expr} :
      Derives .disjunction left leftTree → Derives .conjunction right rightTree →
      Operator.disjunction.Written left right token →
      Derives .disjunction (left ++ token ++ right) (.or leftTree rightTree)
  | and {left token right : Text} {leftTree rightTree : Expr} :
      Derives .conjunction left leftTree → Derives .equality right rightTree →
      Operator.conjunction.Written left right token →
      Derives .conjunction (left ++ token ++ right) (.and leftTree rightTree)
  | equals {left token right : Text} {leftTree rightTree : Expr} :
      Derives .primary left leftTree → Derives .primary right rightTree →
      Operator.equality.Written left right token →
      Derives .equality (left ++ token ++ right) (.equals leftTree rightTree)
  | literal {value : Text} : '"' ∉ value →
      Derives .primary ('"' :: value ++ ['"']) (.literal value)
  | matching {first second pattern : Text} {text : Expr} :
      Derives .primary first (.literal pattern) → Derives .disjunction second text →
      Derives .primary (applied matchingName [first, second]) (.matching pattern text)
  | capture {first second pattern : Text} {text : Expr} :
      Derives .primary first (.literal pattern) → Derives .disjunction second text →
      Derives .primary (applied captureName [first, second]) (.capture pattern text 0)
  | captureAt {first second index pattern : Text} {text : Expr} :
      Derives .primary first (.literal pattern) → Derives .disjunction second text →
      Closed index → (mark ',').Free index →
      Derives .primary (applied captureName [first, second, index])
        (.capture pattern text (readIndex (Text.trim index)))
  | callEmpty {receiver method head inner : Text} :
      CallHead receiver method head → Text.isBlank inner = true →
      Derives .primary (applied head [inner]) (.call receiver method [])
  | call {receiver method head : Text} {arguments : List (Text × Expr)} :
      CallHead receiver method head → arguments ≠ [] →
      (∀ argument ∈ arguments, Derives .disjunction argument.1 argument.2) →
      Derives .primary (applied head (arguments.map Prod.fst))
        (.call receiver method (arguments.map Prod.snd))

/-! What texts of a level are like, seen from outside. -/

/-- The text can stand anywhere as one part: it is closed, neither a separator nor a
looser operator stands at its top, and its last visible character is a delimiter. -/
structure Shape (level : Level) (text : Text) : Prop where
  closed : Closed text
  free : ∀ operator ∈ level.absent, operator.Free text
  ends : ∃ c, (Text.trimEnd text).getLast? = some c ∧ isDelimiter c = true

theorem plain_comma : (mark ',').Plain :=
  Operator.plain_mark (by decide) (by decide) (by decide)

theorem plain_semicolon : (mark ';').Plain :=
  Operator.plain_mark (by decide) (by decide) (by decide)

theorem Level.cases_of_mem_absent {level : Level} {operator : Operator}
    (member : operator ∈ level.absent) :
    operator = mark ',' ∨ operator = mark ';' ∨ operator = .disjunction ∨
      operator = .conjunction ∨ operator = .equality := by
  cases level <;>
    simp only [Level.absent, Level.looser, List.mem_cons, List.not_mem_nil, or_false]
      at member <;>
    tauto

theorem Level.plain_of_mem_absent {level : Level} {operator : Operator}
    (member : operator ∈ level.absent) : operator.Plain := by
  rcases cases_of_mem_absent member with
    comma | semicolon | disjunction | conjunction | equality
  · exact comma ▸ plain_comma
  · exact semicolon ▸ plain_semicolon
  · exact disjunction ▸ Operator.plain_disjunction
  · exact conjunction ▸ Operator.plain_conjunction
  · exact equality ▸ Operator.plain_equality

theorem Level.absent_subset_tighter (level : Level) :
    level.absent ⊆ level.tighter.absent := by
  cases level <;> simp [Level.absent, Level.looser, Level.tighter]

namespace Shape

variable {level : Level} {before text after left token right : Text}

theorem not_isBlank (shape : Shape level text) : ¬Text.isBlank text = true := by
  intro blank
  rcases shape.ends with ⟨c, last, _⟩
  have nothing := Text.trimEnd_append_of_isBlank blank []
  rw [List.nil_append] at nothing
  rw [nothing] at last
  exact absurd last (by simp [Text.trimEnd, Text.trimStart])

theorem ends_append {c : Char} (last : (Text.trimEnd right).getLast? = some c)
    (visible : ¬Text.isBlank right = true) (left : Text) :
    (Text.trimEnd (left ++ right)).getLast? = some c := by
  rw [Text.trimEnd_append visible,
    List.getLast?_append_of_ne_nil _ (Text.trimEnd_ne_nil visible), last]

theorem spaced (blankBefore : Text.isBlank before = true)
    (blankAfter : Text.isBlank after = true) (shape : Shape level text) :
    Shape level (before ++ text ++ after) where
  closed := ((Closed.of_no_delimiter (Operator.undelimited_of_isBlank blankBefore)).append
    shape.closed).append (.of_no_delimiter (Operator.undelimited_of_isBlank blankAfter))
  free operator member := (Operator.free_spaced_iff (Level.plain_of_mem_absent member)
    blankBefore blankAfter).mpr (shape.free operator member)
  ends := by
    rcases shape.ends with ⟨c, last, delimiter⟩
    rw [Text.trimEnd_append_of_isBlank blankAfter]
    exact ⟨c, ends_append last shape.not_isBlank before, delimiter⟩

/-- The shape does not depend on white space in front. -/
theorem trimStart (shape : Shape level text) : Shape level (Text.trimStart text) := by
  rcases Text.exists_trimStart text with ⟨before, blank, equal⟩
  have visible : ¬Text.isBlank (Text.trimStart text) = true := by
    intro blankRest
    apply shape.not_isBlank
    rw [equal]
    simp [blank, blankRest]
  constructor
  · have closed := shape.closed
    rw [equal] at closed
    exact (closed.split (Nesting.through_of_no_delimiter
      (Operator.undelimited_of_isBlank blank) outside)).2
  · intro operator member
    have free := shape.free operator member
    rw [equal, ← List.append_nil (before ++ _)] at free
    exact (Operator.free_spaced_iff (Level.plain_of_mem_absent member) blank rfl).mp free
  · rcases shape.ends with ⟨c, last, delimiter⟩
    rw [equal, Text.trimEnd_append visible,
      List.getLast?_append_of_ne_nil _ (Text.trimEnd_ne_nil visible)] at last
    exact ⟨c, last, delimiter⟩

/-- The shape does not depend on white space behind. -/
theorem trimEnd (shape : Shape level text) : Shape level (Text.trimEnd text) := by
  rcases Text.exists_trimEnd text with ⟨after, blank, equal⟩
  constructor
  · have closed := shape.closed
    rw [equal] at closed
    have returns := closed.returns
    rw [Nesting.through_append, Nesting.through_of_no_delimiter
      (Operator.undelimited_of_isBlank blank)] at returns
    exact (closed.split returns).1
  · intro operator member
    have free := shape.free operator member
    rw [equal, ← List.nil_append (Text.trimEnd text)] at free
    exact (Operator.free_spaced_iff (Level.plain_of_mem_absent member) rfl blank).mp free
  · rcases shape.ends with ⟨c, last, delimiter⟩
    rw [equal, Text.trimEnd_append_of_isBlank blank] at last
    exact ⟨c, last, delimiter⟩

theorem of_tighter (shape : Shape level.tighter text) : Shape level text where
  closed := shape.closed
  free operator member := shape.free operator (level.absent_subset_tighter member)
  ends := shape.ends

/-- An operator behind the text does not begin in it. -/
theorem unused_last {operator : Operator} (shape : Shape level text)
    (plain : operator.Plain) {c : Char} (last : text.getLast? = some c) :
    ¬operator.Uses c := by
  rcases shape.ends with ⟨d, lastVisible, delimiter⟩
  rcases Text.exists_trimEnd text with ⟨after, blank, equal⟩
  rw [equal, List.getLast?_append] at last
  rcases final : after.getLast? with _ | e
  · rw [final, lastVisible] at last
    exact plain.unused_of_delimiter (Option.some.inj last ▸ delimiter)
  · rw [final] at last
    have inBlank := List.mem_of_getLast? final
    exact plain.unused_of_isBlank (Option.some.inj last ▸ Text.mem_isBlank blank inBlank)

/-- What ends with a delimiter ends with a visible character. -/
theorem ends_of_delimiter {c : Char} (delimiter : isDelimiter c = true) (front : Text) :
    ∃ d, (Text.trimEnd (front ++ [c])).getLast? = some d ∧ isDelimiter d = true := by
  have visible : ¬Text.isBlank [c] = true := fun blank => by
    rw [Operator.undelimited_of_isBlank blank c (by simp)] at delimiter
    exact absurd delimiter (by simp)
  have alone : (Text.trimEnd [c]).getLast? = some c := by
    simp_all [Text.trimEnd, Text.trimStart, Text.isBlank]
  exact ⟨c, ends_append alone visible front, delimiter⟩

/-- Two parts with an operator between them. -/
theorem binary {operator : Operator} (plain : operator.Plain)
    (distinct : ∀ c, operator.Uses c → ∀ other ∈ level.absent, ¬other.Uses c)
    (shapeLeft : Shape level left) (shapeRight : Shape level right)
    (written : operator.Written left right token) :
    Shape level (left ++ token ++ right) where
  closed := (shapeLeft.closed.append (.of_no_delimiter fun c member =>
    plain.undelimited c (written.uses c member))).append shapeRight.closed
  free other member := by
    have otherPlain := Level.plain_of_mem_absent member
    have unused : ∀ c ∈ token, ¬other.Uses c := fun c inToken =>
      distinct c (written.uses c inToken) other member
    have freeFront := (shapeLeft.free other member).append_of_unused otherPlain unused
    apply freeFront.append (shapeRight.free other member)
    · rw [Nesting.through_append, shapeLeft.closed.returns]
      exact Nesting.through_of_no_delimiter
        (fun c inToken => plain.undelimited c (written.uses c inToken)) outside
    · refine .of_left fun c last => unused c ?_
      rw [List.getLast?_append_of_ne_nil _ (written.nonempty plain)] at last
      exact List.mem_of_getLast? last
  ends := by
    rcases shapeRight.ends with ⟨c, last, delimiter⟩
    exact ⟨c, ends_append last shapeRight.not_isBlank _, delimiter⟩

theorem literal {value : Text} (unquoted : '"' ∉ value) :
    Shape level ('"' :: value ++ ['"']) where
  closed := Nesting.closed_quotes unquoted
  free operator member := by
    have plain := Level.plain_of_mem_absent member
    refine .of_enclosed plain (Nesting.enclosed_quotes unquoted) fun c first => ?_
    have quote : '"' = c := by simpa using first
    exact plain.unused_of_delimiter (quote ▸ rfl)
  ends := ends_of_delimiter rfl ('"' :: value)

/-- A name in front of closed arguments in parentheses. -/
theorem applied {head : Text} {arguments : List Text}
    (undelimited : ∀ c ∈ head, isDelimiter c = false)
    (freeHead : ∀ operator ∈ level.absent, operator.Free head)
    (closed : ∀ argument ∈ arguments, Closed argument) :
    Shape level (applied head arguments) where
  closed := (Closed.of_no_delimiter undelimited).append
    (Nesting.closed_parentheses (Nesting.closed_join (by decide) closed))
  free operator member := by
    have plain := Level.plain_of_mem_absent member
    have unused : ¬operator.Uses '(' := plain.unused_of_delimiter rfl
    have closedInside : Closed (Text.join [','] arguments) :=
      Nesting.closed_join (by decide) closed
    apply (freeHead operator member).append
    · refine .of_enclosed plain (Nesting.enclosed_parentheses closedInside) fun c first => ?_
      have parenthesis : '(' = c := by simpa using first
      exact parenthesis ▸ unused
    · exact Nesting.through_of_no_delimiter undelimited outside
    · refine .of_right fun c first => ?_
      have parenthesis : '(' = c := by simpa using first
      exact parenthesis ▸ unused
  ends := by
    unfold Expr.applied
    rw [← List.append_assoc]
    exact ends_of_delimiter rfl _

end Shape

/-! Names. -/

theorem undelimited_of_isIdentifier {c : Char} (identifier : Character.isIdentifier c = true) :
    isDelimiter c = false := by
  by_contra delimiter
  simp only [isDelimiter, Bool.not_eq_false, Bool.or_eq_true, beq_iff_eq] at delimiter
  rcases delimiter with (quote | opening) | closing
  · subst quote
    exact absurd identifier (by decide)
  · subst opening
    exact absurd identifier (by decide)
  · subst closing
    exact absurd identifier (by decide)

theorem mem_isIdentifier {text : Text} (identifier : isIdentifier text = true) :
    ∀ c ∈ text, Character.isIdentifier c = true := by
  unfold isIdentifier at identifier
  rw [Bool.and_eq_true] at identifier
  exact List.all_eq_true.mp identifier.2

theorem IsName.undelimited {text : Text} (name : IsName text) :
    ∀ c ∈ text, isDelimiter c = false := fun c member =>
  undelimited_of_isIdentifier (mem_isIdentifier name.identifier c member)

theorem IsName.nonempty {text : Text} (name : IsName text) : text ≠ [] := by
  have identifier := name.identifier
  intro nothing
  rw [nothing] at identifier
  exact absurd identifier (by simp [isIdentifier])

theorem IsName.free {text : Text} (name : IsName text) {level : Level} {operator : Operator}
    (member : operator ∈ level.absent) : operator.Free text := by
  refine .of_word (Level.plain_of_mem_absent member)
    (fun c inText => Character.isWord_of_isIdentifier
      (mem_isIdentifier name.identifier c inText)) ?_
  rcases Level.cases_of_mem_absent member with
    comma | semicolon | disjunction | conjunction | equality
  · exact fun hasWord => absurd (comma ▸ rfl) hasWord
  · exact fun hasWord => absurd (semicolon ▸ rfl) hasWord
  · exact fun _ => disjunction ▸ name.notDisjunction
  · exact fun _ => conjunction ▸ name.notConjunction
  · exact fun hasWord => absurd (equality ▸ rfl) hasWord

/-- The characters in front of the parenthesis of a call that are not in its names. -/
theorem CallHead.undelimited {receiver method head : Text}
    (callHead : CallHead receiver method head) : ∀ c ∈ head, isDelimiter c = false := by
  rcases callHead with
    ⟨isReceiver, isMethod, blankReceiver, blankBefore, blankAfter⟩
  intro c member
  simp only [List.mem_append, List.mem_cons] at member
  rcases member with (inReceiver | blank) | point | (blank | inMethod) | blank
  · exact isReceiver.undelimited c inReceiver
  · exact Operator.undelimited_of_isBlank blankReceiver c blank
  · subst point
    decide
  · exact Operator.undelimited_of_isBlank blankBefore c blank
  · exact isMethod.undelimited c inMethod
  · exact Operator.undelimited_of_isBlank blankAfter c blank

theorem unused_point {level : Level} {operator : Operator}
    (member : operator ∈ level.absent) : ¬operator.Uses '.' := by
  rcases Level.cases_of_mem_absent member with
    comma | semicolon | disjunction | conjunction | equality
  · subst comma
    decide
  · subst semicolon
    decide
  · subst disjunction
    decide
  · subst conjunction
    decide
  · subst equality
    decide

theorem CallHead.free {receiver method head : Text}
    (callHead : CallHead receiver method head) {level : Level} {operator : Operator}
    (member : operator ∈ level.absent) : operator.Free head := by
  have plain := Level.plain_of_mem_absent member
  have undelimited := callHead.undelimited
  rcases callHead with
    @⟨afterReceiver, beforeMethod, afterMethod, isReceiver, isMethod, blankReceiver,
      blankBefore, blankAfter⟩
  have unused : ∀ {blank : Text}, Text.isBlank blank = true →
      ∀ c ∈ blank, ¬operator.Uses c := fun blank _ inBlank =>
    plain.unused_of_isBlank (Text.mem_isBlank blank inBlank)
  have freeFront : operator.Free (receiver ++ afterReceiver ++ '.' :: beforeMethod) := by
    apply Free.append_of_unused plain
    · exact (isReceiver.free member).append_of_unused plain (unused blankReceiver)
    · intro c inGap
      rcases List.mem_cons.mp inGap with point | inBlank
      · exact point ▸ unused_point member
      · exact unused blankBefore c inBlank
  have freeNames : operator.Free
      (receiver ++ afterReceiver ++ '.' :: beforeMethod ++ method) := by
    apply freeFront.append (isMethod.free member)
    · apply Nesting.through_of_no_delimiter
      intro c inFront
      apply undelimited c
      simp only [List.mem_append, List.mem_cons] at inFront ⊢
      tauto
    · refine .of_left fun c last => ?_
      rw [List.getLast?_append_cons, List.getLast?_cons] at last
      rcases final : beforeMethod.getLast? with _ | d
      · have point : '.' = c := by simpa [final] using last
        exact point ▸ unused_point member
      · have same : d = c := by simpa [final] using last
        exact same ▸ unused blankBefore d (List.mem_of_getLast? final)
  have whole := freeNames.append_of_unused plain (unused blankAfter)
  simpa using whole

theorem isName_matchingName : IsName matchingName where
  identifier := by decide
  notDisjunction := by decide
  notConjunction := by decide

theorem isName_captureName : IsName captureName where
  identifier := by decide
  notDisjunction := by decide
  notConjunction := by decide

/-- A named function applied to closed arguments has the shape of every level. -/
theorem Shape.builtin {level : Level} {name : Text} {arguments : List Text}
    (isName : IsName name) (closed : ∀ argument ∈ arguments, Closed argument) :
    Shape level (Expr.applied name arguments) :=
  .applied isName.undelimited (fun _ => isName.free) closed

theorem Shape.argument {level : Level} {text : Text} (shape : Shape level text) :
    Closed text ∧ (mark ',').Free text :=
  ⟨shape.closed, shape.free _ (by simp)⟩

theorem Derives.shape {level : Level} {text : Text} {tree : Expr}
    (derives : Derives level text tree) : Shape level text := by
  induction derives with
  | spaced blankBefore blankAfter _ shape => exact shape.spaced blankBefore blankAfter
  | tighter _ shape => exact shape.of_tighter
  | or _ _ written left right =>
      exact .binary Operator.plain_disjunction (Operator.of_uses (by decide)) left
        (.of_tighter right) written
  | and _ _ written left right =>
      exact .binary Operator.plain_conjunction (Operator.of_uses (by decide)) left
        (.of_tighter right) written
  | equals _ _ written left right =>
      exact .binary Operator.plain_equality (Operator.of_uses (by decide))
        (.of_tighter left) (.of_tighter right) written
  | literal unquoted => exact .literal unquoted
  | matching _ _ pattern text =>
      exact .builtin isName_matchingName (by simp [pattern.closed, text.closed])
  | capture _ _ pattern text =>
      exact .builtin isName_captureName (by simp [pattern.closed, text.closed])
  | captureAt _ _ closed _ pattern text =>
      exact .builtin isName_captureName (by simp [pattern.closed, text.closed, closed])
  | callEmpty callHead blank =>
      refine .applied callHead.undelimited (fun _ => callHead.free) fun inner member => ?_
      rw [List.mem_singleton.mp member]
      exact .of_no_delimiter (Operator.undelimited_of_isBlank blank)
  | call callHead _ _ arguments =>
      refine .applied callHead.undelimited (fun _ => callHead.free) fun text member => ?_
      rcases List.mem_map.mp member with ⟨argument, inArguments, equal⟩
      exact equal ▸ (arguments argument inArguments).closed

end RobotRules.Expr
