import RobotRules.Proofs.Expr.Canonical

/-! The texts that a tree holds as they are: its literals and patterns. In the text that
a tree is read from each of them stands behind a quote, and in the text of a tree nothing
else but names, numbers and a few marks is written. -/

namespace RobotRules.Expr

mutual
/-- The literals and patterns of a tree. -/
def texts : Expr → List Text
  | .literal value => [value]
  | .call _ _ arguments => textsIn arguments
  | .equals left right | .and left right | .or left right => texts left ++ texts right
  | .matching pattern text | .capture pattern text _ => pattern :: texts text
  | .foreign _ => []

def textsIn : List Expr → List Text
  | [] => []
  | expr :: rest => texts expr ++ textsIn rest
end

theorem textsIn_eq_flatMap (arguments : List Expr) :
    textsIn arguments = arguments.flatMap texts := by
  induction arguments with
  | nil => rfl
  | cons argument others induction => rw [textsIn, induction, List.flatMap_cons]

theorem infix_applied {part head : Text} {arguments : List Text} (member : part ∈ arguments) :
    part <:+: applied head arguments := by
  have inside : Text.join [','] arguments <:+: applied head arguments :=
    ⟨head ++ ['('], [')'], by simp [applied]⟩
  exact (Nesting.infix_join member).trans inside

/-- Where a tree is read from, its literals and patterns stand behind quotes. -/
theorem quoted_of_mem_texts {level : Level} {text : Text} {tree : Expr}
    (derives : Derives level text tree) {value : Text} (member : value ∈ texts tree) :
    '"' :: value <:+: text := by
  have inOperand : ∀ {part left token right : Text}, part <:+: left ∨ part <:+: right →
      part <:+: left ++ token ++ right := by
    intro part left token right within
    rcases within with inLeft | inRight
    · rw [List.append_assoc]
      exact inLeft.trans (List.prefix_append _ _).isInfix
    · exact inRight.trans (List.suffix_append _ _).isInfix
  induction derives with
  | spaced _ _ _ induction => exact (induction member).trans ⟨_, _, rfl⟩
  | tighter _ induction => exact induction member
  | or _ _ _ left right =>
      rw [texts, List.mem_append] at member
      exact inOperand (member.imp left right)
  | and _ _ _ left right =>
      rw [texts, List.mem_append] at member
      exact inOperand (member.imp left right)
  | equals _ _ _ left right =>
      rw [texts, List.mem_append] at member
      exact inOperand (member.imp left right)
  | literal unquoted =>
      rw [texts, List.mem_singleton] at member
      rw [member]
      exact (List.prefix_append _ _).isInfix
  | matching _ _ pattern text =>
      rcases List.mem_cons.mp member with isPattern | inText
      · exact (pattern (by simp [texts, isPattern])).trans (infix_applied (by simp))
      · exact (text inText).trans (infix_applied (by simp))
  | capture _ _ pattern text =>
      rcases List.mem_cons.mp member with isPattern | inText
      · exact (pattern (by simp [texts, isPattern])).trans (infix_applied (by simp))
      · exact (text inText).trans (infix_applied (by simp))
  | captureAt _ _ _ _ pattern text =>
      rcases List.mem_cons.mp member with isPattern | inText
      · exact (pattern (by simp [texts, isPattern])).trans (infix_applied (by simp))
      · exact (text inText).trans (infix_applied (by simp))
  | callEmpty => simp [texts, textsIn] at member
  | call _ _ _ arguments =>
      rw [texts, textsIn_eq_flatMap, List.mem_flatMap] at member
      rcases member with ⟨tree, inTrees, inTree⟩
      rcases List.mem_map.mp inTrees with ⟨argument, inArguments, equal⟩
      rw [← equal] at inTree
      exact (arguments argument inArguments inTree).trans
        (infix_applied (List.mem_map_of_mem inArguments))

/-! The text of a tree. -/

/-- The marks that are written between the parts of a tree. -/
def marks : List Char := ['"', '.', '(', ')', ',', ' ', '=', '&', '|', '-']

/-- What holds of the texts of trees whose literals and patterns are of some kind, holds
of the texts of the arguments of a call that is of this kind. -/
theorem forall_mem_renderAll {P Q : Text → Prop} {receiver method : Text}
    {arguments : List Expr} (held : ∀ value ∈ texts (.call receiver method arguments), Q value)
    (each : ∀ argument ∈ arguments, (∀ value ∈ texts argument, Q value) → P (render argument)) :
    ∀ part ∈ renderAll arguments, P part := by
  intro part member
  rw [renderAll_eq_map] at member
  rcases List.mem_map.mp member with ⟨argument, inArguments, equal⟩
  rw [← equal]
  refine each argument inArguments fun value inTexts => held value ?_
  rw [texts, textsIn_eq_flatMap]
  exact List.mem_flatMap_of_mem inArguments inTexts

/-- What holds of the characters of names, of the marks, and of all characters of the
literals and patterns, holds of every character that is written. -/
theorem characters_render {P : Char → Prop}
    (names : ∀ c, Character.isIdentifier c = true → P c) (glue : ∀ c ∈ marks, P c)
    {tree : Expr} (canonical : Canonical tree)
    (held : ∀ value ∈ texts tree, ∀ c ∈ value, P c) : ∀ c ∈ render tree, P c := by
  have ofMarks : ∀ {text : Text}, text ⊆ marks → ∀ c ∈ text, P c :=
    fun allMarks c member => glue c (allMarks member)
  have ofName : ∀ {text : Text}, IsName text → ∀ c ∈ text, P c := fun isName c member =>
    names c (mem_isIdentifier isName.identifier c member)
  induction canonical with
  | @literal value _ =>
      simp only [render, List.forall_mem_append]
      exact ⟨⟨ofMarks (by decide), held value (by simp [texts])⟩, ofMarks (by decide)⟩
  | @call receiver method arguments isReceiver isMethod _ induction =>
      have inArguments : ∀ part ∈ renderAll arguments, ∀ c ∈ part, P c :=
        forall_mem_renderAll held induction
      simp only [render, List.forall_mem_append]
      exact ⟨⟨⟨⟨⟨ofName isReceiver, ofMarks (by decide)⟩, ofName isMethod⟩,
        ofMarks (by decide)⟩, Nesting.forall_mem_join (ofMarks (by decide)) inArguments⟩,
        ofMarks (by decide)⟩
  | equals _ _ _ _ left right =>
      simp only [render, List.forall_mem_append]
      exact ⟨⟨left fun value member => held value (by simp [texts, member]),
        ofMarks (by decide)⟩, right fun value member => held value (by simp [texts, member])⟩
  | and _ _ _ _ left right =>
      simp only [render, List.forall_mem_append]
      exact ⟨⟨left fun value member => held value (by simp [texts, member]),
        ofMarks (by decide)⟩, right fun value member => held value (by simp [texts, member])⟩
  | or _ _ _ left right =>
      simp only [render, List.forall_mem_append]
      exact ⟨⟨left fun value member => held value (by simp [texts, member]),
        ofMarks (by decide)⟩, right fun value member => held value (by simp [texts, member])⟩
  | @matching pattern _ _ _ text =>
      simp only [render, List.forall_mem_append]
      exact ⟨⟨⟨⟨⟨ofName isName_matchingName, ofMarks (by decide)⟩,
        held pattern (by simp [texts])⟩, ofMarks (by decide)⟩,
        text fun value member => held value (by simp [texts, member])⟩, ofMarks (by decide)⟩
  | @capture pattern _ index _ _ _ text =>
      have ofIndex : ∀ c ∈ Number.writeInteger index, P c := by
        intro c member
        rcases Number.mem_writeInteger member with minus | digit
        · exact minus ▸ glue '-' (by decide)
        · exact names c (isIdentifier_of_isDigit digit)
      simp only [render, List.forall_mem_append]
      exact ⟨⟨⟨⟨⟨⟨⟨ofName isName_captureName, ofMarks (by decide)⟩,
        held pattern (by simp [texts])⟩, ofMarks (by decide)⟩,
        text fun value member => held value (by simp [texts, member])⟩,
        ofMarks (by decide)⟩, ofIndex⟩, ofMarks (by decide)⟩

/-- The text of a tree begins with a quote or a name. -/
theorem exists_render_eq_cons {tree : Expr} (canonical : Canonical tree) :
    ∃ first rest, render tree = first :: rest ∧ Character.isBlank first = false := by
  have onLeft : ∀ {left : Text} (right : Text),
      (∃ first rest, left = first :: rest ∧ Character.isBlank first = false) →
      ∃ first rest, left ++ right = first :: rest ∧ Character.isBlank first = false := by
    rintro left right ⟨first, rest, equal, visible⟩
    exact ⟨first, rest ++ right, by rw [equal, List.cons_append], visible⟩
  induction canonical with
  | literal _ => exact ⟨'"', _, rfl, by decide⟩
  | call isReceiver isMethod _ _ =>
      rcases isReceiver.begins with ⟨first, rest, equal, identifier⟩
      simp only [render, List.append_assoc]
      exact onLeft _ ⟨first, rest, equal, visible_of_isIdentifier identifier⟩
  | equals _ _ _ _ left _ =>
      simp only [render, List.append_assoc]
      exact onLeft _ left
  | and _ _ _ _ left _ =>
      simp only [render, List.append_assoc]
      exact onLeft _ left
  | or _ _ _ left _ =>
      simp only [render, List.append_assoc]
      exact onLeft _ left
  | matching _ _ _ => exact ⟨'P', _, rfl, by decide⟩
  | capture _ _ _ _ => exact ⟨'E', _, rfl, by decide⟩

end RobotRules.Expr
