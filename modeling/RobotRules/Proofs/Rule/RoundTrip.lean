import RobotRules.Proofs.Expr.Texts
import RobotRules.Proofs.Rule.Blocks
import RobotRules.Rule.Parser

/-! The rules that come back when the text of a rule set is read: those whose trees come
back, and whose literals and patterns do not disturb the blocks around them. Every rule
that is read is of this kind. -/

namespace RobotRules.Rule

open Block (Unbracketed Arrowless unbracketed_append)
open RobotRules.Expr (Canonical Derives texts)

/-- The rules that survive being written and read. A bracket would end the block it
stands in, and an arrow in the condition would be taken for the one behind it. -/
structure WellFormed (rule : Rule) : Prop where
  condition : Canonical rule.condition
  actions : ∀ action ∈ rule.actions, Canonical action
  nonempty : rule.actions ≠ []
  unbracketed : ∀ tree ∈ rule.condition :: rule.actions, ∀ value ∈ texts tree,
    Unbracketed value
  arrowless : ∀ value ∈ texts rule.condition, Arrowless value

/-! Rules that are read are well formed. -/

theorem exists_of_parse_eq_ok {condition actions : Text} {rule : Rule}
    (found : parse condition actions = .ok rule) :
    Expr.parse condition = .ok rule.condition ∧
      (Nesting.splitActions actions).mapM Expr.parse = .ok rule.actions ∧
      rule.actions ≠ [] := by
  unfold parse at found
  rcases Result.bind_eq_ok_iff.mp found with ⟨tree, conditionRead, found⟩
  rcases Result.bind_eq_ok_iff.mp found with ⟨trees, actionsRead, found⟩
  split_ifs at found with empty
  rw [← Except.ok.inj found]
  exact ⟨conditionRead, actionsRead, by simpa using empty⟩

theorem sublist_of_mem_splitActions {text part : Text}
    (member : part ∈ Nesting.splitActions text) : part.Sublist text := by
  unfold Nesting.splitActions Nesting.split at member
  rcases List.mem_map.mp (List.mem_filter.mp member).1 with ⟨segment, inSegments, equal⟩
  rw [← equal]
  exact (Text.sublist_trim segment).trans (Nesting.sublist_of_mem_segmentsFrom inSegments)

/-- Literals and patterns have only characters of the text they are read from. -/
theorem unbracketed_of_parse {text : Text} {tree : Expr}
    (found : Expr.parse text = .ok tree) (unbracketed : Unbracketed text) :
    ∀ value ∈ texts tree, Unbracketed value := by
  intro value member
  have derives : Derives .disjunction text tree := Expr.derives_of_parse found (by simp)
  have within := Expr.quoted_of_mem_texts derives member
  exact unbracketed.of_subset (List.Subset.trans (List.subset_cons_self _ _) within.subset)

theorem wellFormed_of_parse {body condition actions : Text} {rule : Rule}
    (unbracketed : Unbracketed body) (cut : Block.cut? body = some (condition, actions))
    (found : parse condition actions = .ok rule) : rule.WellFormed := by
  rcases exists_of_parse_eq_ok found with ⟨conditionRead, actionsRead, nonempty⟩
  rcases Block.exists_of_cut?_eq_some cut with ⟨blank, whole, _, start⟩
  have inCondition : condition ⊆ body := by simp [whole]
  have inActions : actions ⊆ body := whole ▸ List.subset_append_right _ _
  have action : ∀ action ∈ rule.actions, ∃ part, part.Sublist actions ∧
      Expr.parse part = .ok action := by
    intro action member
    rcases Result.exists_of_mem_mapM actionsRead member with ⟨part, inParts, partRead⟩
    exact ⟨part, sublist_of_mem_splitActions inParts, partRead⟩
  refine ⟨Expr.canonical_of_parse conditionRead, ?_, nonempty, ?_, ?_⟩
  · intro tree member
    rcases action tree member with ⟨part, _, partRead⟩
    exact Expr.canonical_of_parse partRead
  · intro tree member
    rcases List.mem_cons.mp member with isCondition | inRule
    · exact isCondition ▸ unbracketed_of_parse conditionRead (unbracketed.of_subset inCondition)
    · rcases action tree inRule with ⟨part, within, partRead⟩
      exact unbracketed_of_parse partRead
        (unbracketed.of_subset (List.Subset.trans within.subset inActions))
  · intro value member within
    have derives : Derives .disjunction condition rule.condition :=
      Expr.derives_of_parse conditionRead (by simp)
    rcases Expr.quoted_of_mem_texts derives member with ⟨before, after, equal⟩
    rcases start with ⟨first, rest, isCondition, arrowless⟩ | ⟨empty, _⟩
    · -- the quote in front of the value keeps it behind the first character
      have behind : value <:+: rest := by
        rw [isCondition] at equal
        rcases before with _ | ⟨c, before⟩
        · injection equal with _ others
          exact ⟨[], after, others⟩
        · injection equal with _ others
          exact ⟨before ++ ['"'], after, by simpa using others⟩
      exact arrowless (within.trans behind)
    · simp [empty] at equal

/-! Reading the blocks of a text. -/

theorem exists_of_mem_ofBlocks {blocks : List Block} {rule : Rule}
    (member : rule ∈ (ofBlocks blocks).1) :
    ∃ block ∈ blocks, parse block.condition block.actions = .ok rule := by
  induction blocks with
  | nil => simp [ofBlocks] at member
  | cons block blocks induction =>
      rw [ofBlocks] at member
      cases read : parse block.condition block.actions with
      | error error =>
          rcases induction (by simpa [read] using member) with ⟨other, inBlocks, found⟩
          exact ⟨other, List.mem_cons_of_mem _ inBlocks, found⟩
      | ok first =>
          have here : rule = first ∨ rule ∈ (ofBlocks blocks).1 := by
            simpa [read] using member
          rcases here with same | later
          · exact ⟨block, by simp, same ▸ read⟩
          · rcases induction later with ⟨other, inBlocks, found⟩
            exact ⟨other, List.mem_cons_of_mem _ inBlocks, found⟩

theorem wellFormed_of_mem_parseAll {text : Text} {rule : Rule}
    (member : rule ∈ (parseAll text).1) : rule.WellFormed := by
  rcases exists_of_mem_ofBlocks member with ⟨block, inBlocks, found⟩
  rcases List.mem_filterMap.mp inBlocks with ⟨body, inBodies, isBlock⟩
  rcases Option.map_eq_some_iff.mp isBlock with ⟨⟨condition, actions⟩, cut, equal⟩
  rw [← equal] at found
  have clean : Unbracketed body :=
    Block.unbracketed_of_mem_bodiesFrom (by simp) inBodies
  exact wellFormed_of_parse clean cut found

/-! The text of a rule. -/

/-- The actions of a rule as they are written, with a space in front of each. -/
def writtenActions (rule : Rule) : Text :=
  Text.join [';'] (rule.actions.map fun action => ' ' :: action.render)

/-- What is written between the brackets of a rule. -/
def body (rule : Rule) : Text :=
  rule.condition.render ++ ' ' :: (arrow ++ rule.writtenActions)

theorem render_eq {rule : Rule} (nonempty : rule.actions ≠ []) :
    rule.render = '[' :: rule.body ++ [']'] := by
  rcases actions : rule.actions with _ | ⟨first, others⟩
  · exact absurd actions nonempty
  · have gap := Nesting.join_cons_gap ';' [' '] first.render (others.map Expr.render)
    have front := Nesting.join_append_cons [';'] [' '] first.render
      ((others.map Expr.render).map ([' '] ++ ·))
    have same : rule.writtenActions = ' ' :: Text.join [';', ' ']
        (first.render :: others.map Expr.render) := by
      rw [writtenActions, actions, gap]
      simpa [Function.comp_def] using front
    simp [render, body, actions, same, arrow]

theorem unbracketed_render {tree : Expr} (canonical : Canonical tree)
    (held : ∀ value ∈ texts tree, Unbracketed value) : Unbracketed tree.render := by
  have names : ∀ c, Character.isIdentifier c = true → c ≠ '[' ∧ c ≠ ']' := by
    intro c identifier
    constructor
    · rintro rfl
      exact absurd identifier (by decide)
    · rintro rfl
      exact absurd identifier (by decide)
  exact Block.unbracketed_iff.mpr <| Expr.characters_render names
    (Text.forall_mem_of_all (by decide)) canonical fun value member =>
      Block.unbracketed_iff.mp (held value member)

theorem arrowless_name {name : Text} (isName : Expr.IsName name) : Arrowless name :=
  Block.arrowless_of_not_mem fun member =>
    absurd (Expr.mem_isIdentifier isName.identifier _ member) (by decide)

theorem arrowless_join {parts : List Text} (each : ∀ part ∈ parts, Arrowless part) :
    Arrowless (Text.join ", " parts) := by
  refine Nesting.join_induction Block.arrowless_nil ?_ each
  intro left right arrowlessLeft arrowlessRight
  rw [show left ++ ", ".toList ++ right = left ++ ',' :: ' ' :: right by simp,
    Block.arrowless_append_cons (by decide), Block.arrowless_cons (by decide)]
  exact ⟨arrowlessLeft, arrowlessRight⟩

theorem arrowless_writeInteger (number : Int) : Arrowless (Number.writeInteger number) :=
  Block.arrowless_of_not_mem fun member => by
    rcases Number.mem_writeInteger member with minus | digit
    · exact absurd minus (by decide)
    · exact absurd digit (by decide)

/-- The text of a tree has no arrow outside its literals and patterns. -/
theorem arrowless_render {tree : Expr} (canonical : Canonical tree)
    (held : ∀ value ∈ texts tree, Arrowless value) : Arrowless tree.render := by
  have operands : ∀ {left right : Text} (c d : Char), Arrowless left → Arrowless right →
      c ∉ arrow → d ∉ arrow → Arrowless (left ++ ' ' :: c :: d :: ' ' :: right) := by
    intro left right c d arrowlessLeft arrowlessRight apart apart'
    rw [Block.arrowless_append_cons (by decide), Block.arrowless_cons apart,
      Block.arrowless_cons apart', Block.arrowless_cons (by decide)]
    exact ⟨arrowlessLeft, arrowlessRight⟩
  induction canonical with
  | @literal value _ =>
      have written : (Expr.literal value).render = '"' :: (value ++ '"' :: []) := by
        simp [Expr.render]
      rw [written, Block.arrowless_cons (by decide),
        Block.arrowless_append_cons (by decide)]
      exact ⟨held value (by simp [texts]), Block.arrowless_nil⟩
  | @call receiver method arguments isReceiver isMethod _ induction =>
      have written : (Expr.call receiver method arguments).render = receiver ++ '.' ::
          (method ++ '(' :: (Text.join ", " (Expr.renderAll arguments) ++ ')' :: [])) := by
        simp [Expr.render]
      have inArguments := Expr.forall_mem_renderAll held induction
      rw [written, Block.arrowless_append_cons (by decide),
        Block.arrowless_append_cons (by decide), Block.arrowless_append_cons (by decide)]
      exact ⟨arrowless_name isReceiver, arrowless_name isMethod, arrowless_join inArguments,
        Block.arrowless_nil⟩
  | @equals left right _ _ _ _ arrowlessLeft arrowlessRight =>
      have whole := operands '=' '='
        (arrowlessLeft fun value member => held value (by simp [texts, member]))
        (arrowlessRight fun value member => held value (by simp [texts, member]))
        (by decide) (by decide)
      simpa [Expr.render] using whole
  | @and left right _ _ _ _ arrowlessLeft arrowlessRight =>
      have whole := operands '&' '&'
        (arrowlessLeft fun value member => held value (by simp [texts, member]))
        (arrowlessRight fun value member => held value (by simp [texts, member]))
        (by decide) (by decide)
      simpa [Expr.render] using whole
  | @or left right _ _ _ arrowlessLeft arrowlessRight =>
      have whole := operands '|' '|'
        (arrowlessLeft fun value member => held value (by simp [texts, member]))
        (arrowlessRight fun value member => held value (by simp [texts, member]))
        (by decide) (by decide)
      simpa [Expr.render] using whole
  | @matching pattern text _ _ arrowlessText =>
      have written : (Expr.matching pattern text).render = matchingName ++ '(' :: '"' ::
          (pattern ++ '"' :: ',' :: ' ' :: (text.render ++ ')' :: [])) := by
        simp [Expr.render]
      rw [written]
      simp (disch := decide) only [Block.arrowless_append_cons, Block.arrowless_cons]
      exact ⟨arrowless_name Expr.isName_matchingName, held pattern (by simp [texts]),
        arrowlessText fun value member => held value (by simp [texts, member]),
        Block.arrowless_nil⟩
  | @capture pattern text index _ _ _ arrowlessText =>
      have written : (Expr.capture pattern text index).render = captureName ++ '(' :: '"' ::
          (pattern ++ '"' :: ',' :: ' ' :: (text.render ++ ',' :: ' ' ::
            (Number.writeInteger index ++ ')' :: []))) := by
        simp [Expr.render]
      rw [written]
      simp (disch := decide) only [Block.arrowless_append_cons, Block.arrowless_cons]
      exact ⟨arrowless_name Expr.isName_captureName, held pattern (by simp [texts]),
        arrowlessText fun value member => held value (by simp [texts, member]),
        arrowless_writeInteger index, Block.arrowless_nil⟩

theorem WellFormed.unbracketed_body {rule : Rule} (wellFormed : rule.WellFormed) :
    Unbracketed rule.body := by
  have inCondition := unbracketed_render wellFormed.condition
    (wellFormed.unbracketed rule.condition (by simp))
  have inActions : ∀ part ∈ rule.actions.map fun action => ' ' :: action.render,
      ∀ c ∈ part, c ≠ '[' ∧ c ≠ ']' := by
    intro part member
    rcases List.mem_map.mp member with ⟨action, inRule, equal⟩
    have unbracketed := unbracketed_render (wellFormed.actions action inRule)
      (wellFormed.unbracketed action (by simp [inRule]))
    rw [← equal, List.forall_mem_cons]
    exact ⟨by decide, Block.unbracketed_iff.mp unbracketed⟩
  rw [Block.unbracketed_iff] at inCondition ⊢
  rw [body, List.forall_mem_append, List.forall_mem_cons, List.forall_mem_append]
  exact ⟨inCondition, by decide, Text.forall_mem_of_all (by decide),
    Nesting.forall_mem_join (Text.forall_mem_of_all (by decide)) inActions⟩

theorem exists_writtenActions_eq_cons {rule : Rule} (nonempty : rule.actions ≠ []) :
    ∃ rest, rule.writtenActions = ' ' :: rest := by
  rcases actions : rule.actions with _ | ⟨first, others⟩
  · exact absurd actions nonempty
  · have front := Nesting.join_append_cons [';'] [' '] first.render
      (others.map fun action => ' ' :: action.render)
    refine ⟨Text.join [';'] (first.render :: others.map fun action => ' ' :: action.render), ?_⟩
    rw [writtenActions, actions, List.map_cons]
    exact front

theorem WellFormed.cut?_body {rule : Rule} (wellFormed : rule.WellFormed) :
    Block.cut? rule.body = some (rule.condition.render ++ [' '], rule.writtenActions) := by
  rcases Expr.exists_render_eq_cons wellFormed.condition with ⟨first, before, equal, visible⟩
  rcases exists_writtenActions_eq_cons wellFormed.nonempty with ⟨behind, actions⟩
  have arrowless := arrowless_render wellFormed.condition wellFormed.arrowless
  rw [equal] at arrowless
  rw [body, equal, actions]
  exact Block.cut?_append visible
    (fun within => arrowless (List.infix_cons_iff.mpr (.inr within))) ' ' behind

/-- The actions are found between the semicolons. -/
theorem WellFormed.mapM_splitActions {rule : Rule} (wellFormed : rule.WellFormed) :
    (Nesting.splitActions rule.writtenActions).mapM Expr.parse = .ok rule.actions := by
  let written : List (Text × Expr) := rule.actions.map fun action => (' ' :: action.render, action)
  have derived : ∀ part ∈ written, Derives .disjunction part.1 part.2 := by
    intro part member
    rcases List.mem_map.mp member with ⟨action, inRule, equal⟩
    rw [← equal]
    exact (Expr.derives_render (wellFormed.actions action inRule)
      (Expr.fits_disjunction action)).behind_space
  have texts : rule.writtenActions = Text.join [';'] (written.map Prod.fst) := by
    simp [writtenActions, written, Function.comp_def]
  have trees : written.map Prod.snd = rule.actions := by
    simp [written, Function.comp_def]
  have shaped : ∀ part ∈ written.map Prod.fst, Expr.Shape .disjunction part := by
    intro part member
    rcases List.mem_map.mp member with ⟨pair, inWritten, equal⟩
    exact equal ▸ (derived pair inWritten).shape
  have segments : Nesting.segmentsFrom ';' Nesting.outside rule.writtenActions =
      written.map Prod.fst := by
    rw [texts]
    exact Nesting.segmentsFrom_join rfl (by simp [written, wellFormed.nonempty])
      (fun part member => (shaped part member).closed.returns)
      fun part member => (shaped part member).free _ (by simp)
  have visible : ∀ part ∈ (written.map Prod.fst).map Text.trim, !part.isEmpty := by
    intro part member
    rcases List.mem_map.mp member with ⟨untrimmed, inWritten, equal⟩
    have nonempty : part ≠ [] := fun nothing =>
      (shaped untrimmed inWritten).not_isBlank (Text.trim_eq_nil_iff.mp (equal.trans nothing))
    simpa using nonempty
  unfold Nesting.splitActions Nesting.split
  rw [segments, List.filter_eq_self.mpr visible,
    Expr.mapM_trim fun part member => Expr.parse_of_derives (derived part member), trees]

theorem WellFormed.parse_written {rule : Rule} (wellFormed : rule.WellFormed) :
    parse (rule.condition.render ++ [' ']) rule.writtenActions = .ok rule := by
  have conditionRead : Expr.parse (rule.condition.render ++ [' ']) = .ok rule.condition := by
    have derives := Expr.derives_render wellFormed.condition
      (Expr.fits_disjunction rule.condition)
    exact Expr.parse_of_derives derives.before_space
  unfold parse
  rw [conditionRead, wellFormed.mapM_splitActions]
  simp [bind, Except.bind, pure, Except.pure, wellFormed.nonempty]

/-! The text of a rule set. -/

/-- The rules of a set as they are written between the outer brackets. -/
def lines (rules : List Rule) : Text :=
  Text.join ['\n'] (rules.map fun rule => [' ', ' ', ' ', ' '] ++ rule.render)

theorem renderAll_eq (rules : List Rule) :
    renderAll rules = '[' :: (['\n'] ++ lines rules ++ ['\n']) ++ [']'] := by
  simp [renderAll, lines]

theorem bodies_lines {rules : List Rule} (wellFormed : ∀ rule ∈ rules, rule.WellFormed) :
    Block.bodies (lines rules) = rules.map body := by
  have indent : Unbracketed [' ', ' ', ' ', ' '] := Block.unbracketed_of_isBlank rfl
  have newline : Unbracketed ['\n'] := Block.unbracketed_of_isBlank rfl
  have line : ∀ {rule : Rule} (after : Text), rule.WellFormed → Block.bodiesFrom none
      ([' ', ' ', ' ', ' '] ++ rule.render ++ after) =
        rule.body :: Block.bodiesFrom none after := by
    intro rule after wellFormed
    rw [render_eq wellFormed.nonempty, List.append_assoc, Block.bodiesFrom_append indent]
    have block := Block.bodiesFrom_block wellFormed.unbracketed_body none after
    simpa using block
  induction rules with
  | nil => rfl
  | cons rule others induction =>
      have tail := induction fun other member => wellFormed other (by simp [member])
      have here := wellFormed rule (by simp)
      cases others with
      | nil =>
          have alone := line [] here
          simpa [lines, Block.bodies, Block.bodiesFrom] using alone
      | cons other others =>
          have first := line (['\n'] ++ lines (other :: others)) here
          rw [Block.bodiesFrom_append newline] at first
          have split : lines (rule :: other :: others) = [' ', ' ', ' ', ' '] ++
              rule.render ++ (['\n'] ++ lines (other :: others)) := by
            simp [lines, Nesting.join_cons_cons]
          rw [split, Block.bodies, first, List.map_cons]
          exact congrArg _ tail

theorem stripOuter_renderAll {rules : List Rule}
    (wellFormed : ∀ rule ∈ rules, rule.WellFormed) :
    Block.stripOuter (renderAll rules) = Text.trim (lines rules) := by
  have newline : Text.isBlank ['\n'] = true := rfl
  have inner : Text.trim (['\n'] ++ lines rules ++ ['\n']) = Text.trim (lines rules) :=
    Text.trim_append_of_isBlank newline newline _
  have whole : Text.trim (renderAll rules) =
      '[' :: (['\n'] ++ lines rules ++ ['\n']) ++ [']'] := by
    rw [renderAll_eq]
    apply Text.trim_eq_self
    · intro c first
      have bracket : '[' = c := by simpa using first
      exact bracket ▸ rfl
    · intro c last
      rw [List.getLast?_concat] at last
      exact Option.some.inj last ▸ rfl
  rw [Block.stripOuter_of_trim_eq whole, inner]
  rw [inner]
  cases rules with
  | nil => exact .inl rfl
  | cons rule others =>
      have indent : Text.isBlank [' ', ' ', ' ', ' '] = true := rfl
      have here := wellFormed rule (by simp)
      let written := others.map fun rule => [' ', ' ', ' ', ' '] ++ rule.render
      have start : lines (rule :: others) = [' ', ' ', ' ', ' '] ++
          '[' :: Text.join ['\n'] ((rule.body ++ [']']) :: written) ++ [] := by
        rw [lines, List.map_cons, Nesting.join_append_cons, render_eq here.nonempty]
        have bracket := Nesting.join_append_cons ['\n'] ['['] (rule.body ++ [']']) written
        rw [List.append_nil]
        exact congrArg _ bracket
      right
      rw [start, Text.trim_append_of_isBlank indent Text.isBlank_nil]
      exact Text.head?_trim_cons (by decide) _

/-- Every block that is written for a well-formed rule is read as that rule. -/
theorem ofBlocks_bodies {rules : List Rule} (wellFormed : ∀ rule ∈ rules, rule.WellFormed) :
    ofBlocks ((rules.map body).filterMap Block.ofBody?) = (rules, []) := by
  induction rules with
  | nil => rfl
  | cons rule others induction =>
      have here := wellFormed rule (by simp)
      have tail := induction fun other member => wellFormed other (by simp [member])
      have block : Block.ofBody? rule.body =
          some ⟨rule.body, rule.condition.render ++ [' '], rule.writtenActions⟩ := by
        rw [Block.ofBody?, here.cut?_body, Option.map_some]
      rw [List.map_cons, List.filterMap_cons_some block, ofBlocks, tail, here.parse_written]

theorem parseAll_renderAll {rules : List Rule}
    (wellFormed : ∀ rule ∈ rules, rule.WellFormed) :
    parseAll (renderAll rules) = (rules, []) := by
  unfold parseAll Block.ofText
  rw [stripOuter_renderAll wellFormed, Block.bodies_trim, bodies_lines wellFormed,
    ofBlocks_bodies wellFormed]

/-- Every rule that is read is well formed. Well-formed rules can be written, and when
their text is read they come back without a warning. So what was read from a text stays
as it is when it is written and read again. -/
theorem parseAll_round_trip :
    (∀ text, ∀ rule ∈ (parseAll text).1, rule.WellFormed) ∧
      (∀ rules : List Rule, (∀ rule ∈ rules, rule.WellFormed) →
        (∀ rule ∈ rules, ∀ tree ∈ rule.condition :: rule.actions,
          tree.render? = .ok tree.render) ∧
        parseAll (renderAll rules) = (rules, [])) ∧
      ∀ text, parseAll (renderAll (parseAll text).1) = ((parseAll text).1, []) := by
  refine ⟨fun _ _ => wellFormed_of_mem_parseAll, fun rules wellFormed => ⟨?_, ?_⟩, ?_⟩
  · intro rule member tree inRule
    apply Expr.render?_of_canonical
    rcases List.mem_cons.mp inRule with isCondition | isAction
    · exact isCondition ▸ (wellFormed rule member).condition
    · exact (wellFormed rule member).actions tree isAction
  · exact parseAll_renderAll wellFormed
  · exact fun text => parseAll_renderAll fun _ => wellFormed_of_mem_parseAll

/-- A rule with a pattern, an index and an action comes back. -/
theorem parseAll_round_trip_capture :
    let rule : Rule := ⟨.matching "go {place}" (.call "Memory" "text" []),
      [.call "Move" "to" [.capture "go {place}" (.call "Memory" "text" []) (-1)]]⟩
    rule.WellFormed ∧ parseAll (renderAll [rule]) = ([rule], []) := by
  intro rule
  have memory : Canonical (.call "Memory" "text" []) :=
    .call ⟨by decide, by decide, by decide⟩ ⟨by decide, by decide, by decide⟩ (by simp)
  have wellFormed : rule.WellFormed := by
    constructor
    · exact .matching (by decide) memory
    · simp only [rule, List.forall_mem_singleton]
      exact .call ⟨by decide, by decide, by decide⟩ ⟨by decide, by decide, by decide⟩
        (by simpa using .capture (by decide) memory (by decide))
    · simp [rule]
    · simp [rule, texts, Expr.textsIn, Unbracketed]
    · intro value member
      have pattern : value = "go {place}".toList := by
        simpa [rule, texts, Expr.textsIn] using member
      exact pattern ▸ Block.arrowless_of_not_mem (by decide)
  exact ⟨wellFormed, (parseAll_round_trip.2.1 [rule] (by simpa using wellFormed)).2⟩

end RobotRules.Rule
