import RobotRules.Expr.Render
import RobotRules.Proofs.Expr.Recognition
import RobotRules.Proofs.Number

/-! The trees that come back when their text is read. The text of a tree has no
parentheses around operands, so the operands must bind tightly enough; and every part
of the tree must be one that the grammar can spell. -/

namespace RobotRules.Expr

open Nesting (Closed)
open Operator (mark)

/-- Whether an expression binds at least as tightly as the level asks for. -/
def Fits : Level → Expr → Prop
  | .conjunction, .or _ _ => False
  | .equality, .or _ _ | .equality, .and _ _ => False
  | .primary, .or _ _ | .primary, .and _ _ | .primary, .equals _ _ => False
  | _, _ => True

/-- The trees of texts that are read. -/
inductive Canonical : Expr → Prop
  | literal {value : Text} : '"' ∉ value → Canonical (.literal value)
  | call {receiver method : Text} {arguments : List Expr} :
      IsName receiver → IsName method →
      (∀ argument ∈ arguments, Canonical argument) →
      Canonical (.call receiver method arguments)
  | equals {left right : Expr} :
      Canonical left → Canonical right → Fits .primary left → Fits .primary right →
      Canonical (.equals left right)
  | and {left right : Expr} :
      Canonical left → Canonical right → Fits .conjunction left → Fits .equality right →
      Canonical (.and left right)
  | or {left right : Expr} :
      Canonical left → Canonical right → Fits .conjunction right →
      Canonical (.or left right)
  | matching {pattern : Text} {text : Expr} :
      '"' ∉ pattern → Canonical text → Canonical (.matching pattern text)
  | capture {pattern : Text} {text : Expr} {index : Int} :
      '"' ∉ pattern → Canonical text → Number.isWritable index = true →
      Canonical (.capture pattern text index)

theorem Fits.of_tighter {level : Level} {tree : Expr} (fits : Fits level.tighter tree) :
    Fits level tree := by
  cases level <;> cases tree <;> first | exact fits | trivial

theorem fits_disjunction (tree : Expr) : Fits .disjunction tree := by
  cases tree <;> trivial

section Fitting

variable {level : Level} {left right : Expr}

theorem Fits.equality_not_mem (fits : Fits level (.equals left right)) :
    Operator.equality ∉ level.looser := by
  cases level with
  | primary => exact fits.elim
  | _ => simp [Operator.equality, Operator.conjunction, Operator.disjunction]

theorem Fits.conjunction_not_mem (fits : Fits level (.and left right)) :
    Operator.conjunction ∉ level.looser := by
  cases level with
  | equality | primary => exact fits.elim
  | _ => simp [Operator.conjunction, Operator.disjunction]

theorem Fits.disjunction_not_mem (fits : Fits level (.or left right)) :
    Operator.disjunction ∉ level.looser := by
  cases level with
  | disjunction => simp
  | _ => exact fits.elim

end Fitting

/-! Trees that are read are canonical. -/

theorem Canonical.unquoted {value : Text} (canonical : Canonical (.literal value)) :
    '"' ∉ value := by
  cases canonical with
  | literal unquoted => exact unquoted

theorem isWritable_readIndex (text : Text) : Number.isWritable (readIndex text) = true := by
  unfold readIndex
  cases found : Number.readInteger? text with
  | none => decide
  | some index => exact Number.isWritable_of_readInteger? found

theorem canonical_of_derives {level : Level} {text : Text} {tree : Expr}
    (derives : Derives level text tree) : Canonical tree ∧ Fits level tree := by
  induction derives with
  | spaced _ _ _ induction => exact induction
  | tighter _ induction => exact ⟨induction.1, induction.2.of_tighter⟩
  | or _ _ _ left right => exact ⟨.or left.1 right.1 right.2, trivial⟩
  | and _ _ _ left right => exact ⟨.and left.1 right.1 left.2 right.2, trivial⟩
  | equals _ _ _ left right => exact ⟨.equals left.1 right.1 left.2 right.2, trivial⟩
  | literal unquoted => exact ⟨.literal unquoted, trivial⟩
  | matching _ _ pattern text => exact ⟨.matching pattern.1.unquoted text.1, trivial⟩
  | capture _ _ pattern text =>
      exact ⟨.capture pattern.1.unquoted text.1 (by decide), trivial⟩
  | captureAt _ _ _ _ pattern text =>
      exact ⟨.capture pattern.1.unquoted text.1 (isWritable_readIndex _), trivial⟩
  | callEmpty callHead _ =>
      rcases callHead with ⟨isReceiver, isMethod, _, _, _⟩
      exact ⟨.call isReceiver isMethod (by simp), trivial⟩
  | call callHead _ _ arguments =>
      rcases callHead with ⟨isReceiver, isMethod, _, _, _⟩
      refine ⟨.call isReceiver isMethod fun tree member => ?_, trivial⟩
      rcases List.mem_map.mp member with ⟨argument, inArguments, equal⟩
      exact equal ▸ (arguments argument inArguments).1

/-! The text of a canonical tree is derived. -/

theorem renderAll_eq_map (arguments : List Expr) :
    renderAll arguments = arguments.map render := by
  induction arguments with
  | nil => rfl
  | cons argument others induction => rw [renderAll, induction, List.map_cons]

/-- The arguments of a call as they stand between its commas. -/
def writtenArguments : List Expr → List (Text × Expr)
  | [] => []
  | first :: others => (render first, first) :: others.map fun tree => (' ' :: render tree, tree)

theorem map_snd_writtenArguments (arguments : List Expr) :
    (writtenArguments arguments).map Prod.snd = arguments := by
  cases arguments with
  | nil => rfl
  | cons first others => simp [writtenArguments, Function.comp_def]

theorem join_writtenArguments (arguments : List Expr) :
    Text.join [',', ' '] (renderAll arguments) =
      Text.join [','] ((writtenArguments arguments).map Prod.fst) := by
  rw [renderAll_eq_map]
  cases arguments with
  | nil => rfl
  | cons first others =>
      have gap := Nesting.join_cons_gap ',' [' '] (render first) (others.map render)
      simpa [writtenArguments, Function.comp_def] using gap

theorem callHead_of_names {receiver method : Text} (isReceiver : IsName receiver)
    (isMethod : IsName method) : CallHead receiver method (receiver ++ '.' :: method) := by
  have head := CallHead.intro isReceiver isMethod Text.isBlank_nil Text.isBlank_nil
    Text.isBlank_nil
  simpa using head

theorem isIdentifier_of_isDigit {c : Char} (digit : c.isDigit = true) :
    Character.isIdentifier c = true := by
  simp [Character.isIdentifier, Char.isAlphanum, digit]

/-- The text of an integer can stand as an argument. -/
theorem argument_space_writeInteger (index : Int) :
    Closed (' ' :: Number.writeInteger index) ∧
      (mark ',').Free (' ' :: Number.writeInteger index) := by
  have plain : ∀ c ∈ ' ' :: Number.writeInteger index,
      Nesting.isDelimiter c = false ∧ c ≠ ',' := by
    intro c member
    rcases List.mem_cons.mp member with space | inNumber
    · subst space
      decide
    · rcases Number.mem_writeInteger inNumber with minus | digit
      · subst minus
        decide
      · have identifier := isIdentifier_of_isDigit digit
        refine ⟨undelimited_of_isIdentifier identifier, fun comma => ?_⟩
        rw [comma] at identifier
        exact absurd identifier (by decide)
  refine ⟨.of_no_delimiter fun c member => (plain c member).1,
    .of_unused plain_comma fun c member uses => (plain c member).2 ?_⟩
  simpa [Operator.Uses, mark] using uses

theorem readIndex_writeInteger {index : Int} (writable : Number.isWritable index = true) :
    readIndex (Text.trim (' ' :: Number.writeInteger index)) = index := by
  have visible : ∀ c ∈ Number.writeInteger index, Character.isBlank c = false := by
    intro c member
    rcases Number.mem_writeInteger member with minus | digit
    · subst minus
      decide
    · exact visible_of_isIdentifier (isIdentifier_of_isDigit digit)
  have trimmed : Text.trim (' ' :: Number.writeInteger index) = Number.writeInteger index := by
    have blank : Text.isBlank [' '] = true := rfl
    have inner := Text.trim_append_of_isBlank blank Text.isBlank_nil
      (Number.writeInteger index)
    rw [List.append_nil] at inner
    refine inner.trans (Text.trim_eq_self (fun c first => ?_) fun c last => ?_)
    · exact visible c (List.mem_of_head? first)
    · exact visible c (List.mem_of_getLast? last)
  unfold readIndex
  rw [trimmed, Number.readInteger?_writeInteger writable, Option.getD_some]

theorem Derives.behind_space {level : Level} {text : Text} {tree : Expr}
    (derives : Derives level text tree) : Derives level (' ' :: text) tree := by
  have blank : Text.isBlank [' '] = true := rfl
  have spaced := Derives.spaced blank Text.isBlank_nil derives
  simpa using spaced

theorem Derives.before_space {level : Level} {text : Text} {tree : Expr}
    (derives : Derives level text tree) : Derives level (text ++ [' ']) tree := by
  have blank : Text.isBlank [' '] = true := rfl
  have spaced := Derives.spaced Text.isBlank_nil blank derives
  simpa using spaced

theorem derives_render_call {receiver method : Text} {arguments : List Expr}
    (isReceiver : IsName receiver) (isMethod : IsName method)
    (derived : ∀ argument ∈ arguments, Derives .disjunction (render argument) argument) :
    Derives .primary (render (.call receiver method arguments))
      (.call receiver method arguments) := by
  have callHead := callHead_of_names isReceiver isMethod
  have text : render (.call receiver method arguments) =
      applied (receiver ++ '.' :: method) ((writtenArguments arguments).map Prod.fst) := by
    simp [render, applied, join_writtenArguments]
  rw [text]
  cases arguments with
  | nil => exact .callEmpty callHead Text.isBlank_nil
  | cons first others =>
      have each : ∀ argument ∈ writtenArguments (first :: others),
          Derives .disjunction argument.1 argument.2 := by
        intro argument member
        rcases List.mem_cons.mp member with isFirst | inOthers
        · rw [isFirst]
          exact derived first (by simp)
        · rcases List.mem_map.mp inOthers with ⟨other, inOthers, equal⟩
          rw [← equal]
          exact (derived other (by simp [inOthers])).behind_space
      have whole := Derives.call callHead (by simp [writtenArguments]) each
      rwa [map_snd_writtenArguments] at whole

theorem derives_render {tree : Expr} (canonical : Canonical tree) :
    ∀ {level : Level}, Fits level tree → Derives level (render tree) tree := by
  induction canonical with
  | literal unquoted =>
      intro level _
      exact (Derives.literal unquoted).of_primary
  | @call receiver method arguments isReceiver isMethod _ induction =>
      intro level _
      have each : ∀ argument ∈ arguments, Derives .disjunction (render argument) argument :=
        fun argument member => induction argument member (fits_disjunction argument)
      exact (derives_render_call isReceiver isMethod each).of_primary
  | @equals left right _ _ fitsLeft fitsRight leftDerived rightDerived =>
      intro level fits
      have text : render (.equals left right) = render left ++ [' '] ++
          Operator.equality.symbol ++ (' ' :: render right) := by
        simp [render, Operator.equality]
      have whole := Derives.equals (leftDerived fitsLeft).before_space
        (rightDerived fitsRight).behind_space .symbol
      rw [text]
      exact whole.of_equality fits.equality_not_mem
  | @and left right _ _ fitsLeft fitsRight leftDerived rightDerived =>
      intro level fits
      have text : render (.and left right) = render left ++ [' '] ++
          Operator.conjunction.symbol ++ (' ' :: render right) := by
        simp [render, Operator.conjunction]
      have whole := Derives.and (leftDerived fitsLeft).before_space
        (rightDerived fitsRight).behind_space .symbol
      rw [text]
      exact whole.of_conjunction fits.conjunction_not_mem
  | @or left right _ _ fitsRight leftDerived rightDerived =>
      intro level fits
      have text : render (.or left right) = render left ++ [' '] ++
          Operator.disjunction.symbol ++ (' ' :: render right) := by
        simp [render, Operator.disjunction]
      have whole := Derives.or (leftDerived (fits_disjunction left)).before_space
        (rightDerived fitsRight).behind_space .symbol
      rw [text]
      exact whole.of_disjunction fits.disjunction_not_mem
  | @matching pattern text unquoted _ induction =>
      intro level _
      have written : render (.matching pattern text) =
          applied matchingName ['"' :: pattern ++ ['"'], ' ' :: render text] := by
        simp [render, applied, Nesting.join_cons_cons]
      rw [written]
      exact (Derives.matching (.literal unquoted)
        (induction (fits_disjunction _)).behind_space).of_primary
  | @capture pattern text index unquoted _ writable induction =>
      intro level _
      have written : render (.capture pattern text index) = applied captureName
          ['"' :: pattern ++ ['"'], ' ' :: render text,
            ' ' :: Number.writeInteger index] := by
        simp [render, applied, Nesting.join_cons_cons]
      rw [written]
      have argument := argument_space_writeInteger index
      have derived := Derives.captureAt (.literal unquoted)
        (induction (fits_disjunction _)).behind_space argument.1 argument.2
      rw [readIndex_writeInteger writable] at derived
      exact derived.of_primary

/-! Canonical trees can be written. -/

theorem renderErrorIn?_eq_none {arguments : List Expr}
    (each : ∀ argument ∈ arguments, renderError? argument = none) :
    renderErrorIn? arguments = none := by
  induction arguments with
  | nil => rfl
  | cons argument others induction =>
      rw [renderErrorIn?, each argument (by simp),
        induction fun other member => each other (by simp [member])]
      rfl

theorem renderError?_of_canonical {tree : Expr} (canonical : Canonical tree) :
    renderError? tree = none := by
  induction canonical with
  | literal => rw [renderError?]
  | call _ _ _ induction => rw [renderError?, renderErrorIn?_eq_none induction]
  | equals _ _ _ _ left right => rw [renderError?, left, right, Option.none_or]
  | and _ _ _ _ left right => rw [renderError?, left, right, Option.none_or]
  | or _ _ _ left right => rw [renderError?, left, right, Option.none_or]
  | matching _ _ text => rw [renderError?, text]
  | capture _ _ writable text => rw [renderError?, text, if_pos writable, Option.none_or]

theorem render?_of_canonical {tree : Expr} (canonical : Canonical tree) :
    render? tree = .ok (render tree) := by
  rw [render?, renderError?_of_canonical canonical]

theorem parse_render {tree : Expr} (canonical : Canonical tree) :
    parse (render tree) = .ok tree :=
  parse_of_derives (derives_render canonical (fits_disjunction tree))

theorem canonical_of_parse {text : Text} {tree : Expr} (found : parse text = .ok tree) :
    Canonical tree := by
  have derives : Derives .disjunction text tree := derives_of_parse found (by simp)
  exact (canonical_of_derives derives).1

/-- A tree can be written and comes back when its text is read if and only if it is
canonical. -/
theorem exists_render_parse_iff_canonical (tree : Expr) :
    (∃ text, render? tree = .ok text ∧ parse text = .ok tree) ↔ Canonical tree := by
  constructor
  · rintro ⟨text, _, found⟩
    exact canonical_of_parse found
  · intro canonical
    exact ⟨render tree, render?_of_canonical canonical, parse_render canonical⟩

end RobotRules.Expr
