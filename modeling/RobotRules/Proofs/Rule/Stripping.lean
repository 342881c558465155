import RobotRules.Proofs.Rule.Blocks

/-! What becomes of blocks when the brackets around a rule set are taken off. They are
told from the brackets of a block by their places alone, so the closing bracket that is
taken off may be that of the last block. No other block is lost. -/

namespace RobotRules.Block

/-- What stands behind the opening bracket that waits for its closing one at the end of a
text, in reverse; `open?` is what waits at its beginning. -/
def openFrom (open? : Option Text) : Text → Option Text
  | [] => open?
  | '[' :: rest => openFrom (some []) rest
  | ']' :: rest => openFrom none rest
  | c :: rest => openFrom (open?.map (c :: ·)) rest

theorem openFrom_opening (open? : Option Text) (rest : Text) :
    openFrom open? ('[' :: rest) = openFrom (some []) rest := rfl

theorem openFrom_closing (open? : Option Text) (rest : Text) :
    openFrom open? (']' :: rest) = openFrom none rest := rfl

theorem openFrom_cons {c : Char} (opening : c ≠ '[') (closing : c ≠ ']')
    (open? : Option Text) (rest : Text) :
    openFrom open? (c :: rest) = openFrom (open?.map (c :: ·)) rest := by
  rw [openFrom]
  · exact opening
  · exact closing

theorem openFrom_of_unbracketed {part : Text} (unbracketed : Unbracketed part)
    (open? : Option Text) : openFrom open? part = open?.map (part.reverse ++ ·) := by
  induction part generalizing open? with
  | nil => simp [openFrom]
  | cons c part induction =>
      simp only [Unbracketed, List.mem_cons, not_or] at unbracketed
      rw [openFrom_cons (Ne.symm unbracketed.1.1) (Ne.symm unbracketed.2.1),
        induction ⟨unbracketed.1.2, unbracketed.2.2⟩]
      cases open? <;> simp

theorem openFrom_append (open? : Option Text) (left right : Text) :
    openFrom open? (left ++ right) = openFrom (openFrom open? left) right := by
  induction left generalizing open? with
  | nil => rfl
  | cons c rest induction =>
      rw [List.cons_append]
      by_cases opening : c = '['
      · rw [opening, openFrom_opening, openFrom_opening, induction]
      by_cases closing : c = ']'
      · rw [closing, openFrom_closing, openFrom_closing, induction]
      · rw [openFrom_cons opening closing, openFrom_cons opening closing, induction]

theorem bodiesFrom_append_append (open? : Option Text) (left right : Text) :
    bodiesFrom open? (left ++ right) =
      bodiesFrom open? left ++ bodiesFrom (openFrom open? left) right := by
  induction left generalizing open? with
  | nil => rfl
  | cons c rest induction =>
      rw [List.cons_append]
      by_cases opening : c = '['
      · rw [opening, bodiesFrom_opening, bodiesFrom_opening, openFrom_opening, induction]
      by_cases closing : c = ']'
      · subst closing
        cases open? with
        | none =>
            rw [bodiesFrom_closing_none, bodiesFrom_closing_none, openFrom_closing, induction]
        | some characters =>
            rw [bodiesFrom_closing_some, bodiesFrom_closing_some, openFrom_closing, induction,
              List.cons_append]
      · rw [bodiesFrom_cons opening closing, bodiesFrom_cons opening closing,
          openFrom_cons opening closing, induction]

theorem bodiesFrom_concat_closing (open? : Option Text) (text : Text) :
    bodiesFrom open? (text ++ [']']) =
      bodiesFrom open? text ++ ((openFrom open? text).map List.reverse).toList := by
  rw [bodiesFrom_append_append]
  cases openFrom open? text <;> rfl

/-- The body whose closing bracket is taken off as the one of the whole rule set. -/
def clipped? (text : Text) : Option Text :=
  match Text.trim text with
  | '[' :: rest =>
    let inner := Text.trim rest.dropLast
    if rest.getLast? == some ']' && (inner.isEmpty || inner.head? == some '[') then
      (openFrom (some []) rest.dropLast).map List.reverse
    else none
  | _ => none

example : clipped? "[[a --> b]" = some "a --> b" ∧ clipped? "[[a --> b]]" = none := by decide

/-- Nothing is taken off a text, or the first and the last bracket of it, between which
there is nothing or another bracket comes first. -/
theorem stripOuter_cases (text : Text) :
    (stripOuter text = Text.trim text ∧ clipped? text = none) ∨
      ∃ inside, Text.trim text = '[' :: inside ++ [']'] ∧
        (Text.trim inside = [] ∨ (Text.trim inside).head? = some '[') ∧
        stripOuter text = Text.trim inside ∧
        clipped? text = (openFrom (some []) inside).map List.reverse := by
  unfold stripOuter
  split
  · rename_i rest trimmed
    have clips : clipped? text =
        if rest.getLast? == some ']' &&
            ((Text.trim rest.dropLast).isEmpty || (Text.trim rest.dropLast).head? == some '[') then
          (openFrom (some []) rest.dropLast).map List.reverse
        else none := by
      rw [clipped?, trimmed]
      rfl
    rw [trimmed, clips]
    dsimp only
    split_ifs with strips
    · right
      rw [Bool.and_eq_true, Bool.or_eq_true, beq_iff_eq, beq_iff_eq,
        List.isEmpty_iff] at strips
      have cut : rest = rest.dropLast ++ [']'] :=
        (List.dropLast_append_getLast? _ (Option.mem_def.mpr strips.1)).symm
      exact ⟨rest.dropLast, congrArg _ cut, strips.2, rfl, rfl⟩
    · exact .inl ⟨rfl, rfl⟩
  · rename_i noBracket
    have clips : clipped? text = none := by
      unfold clipped?
      split
      · rename_i rest trimmed
        exact absurd trimmed (noBracket rest)
      · rfl
    exact .inl ⟨rfl, clips⟩

/-- Behind an opening bracket, blank space and another one, the first is forgotten. -/
theorem bodiesFrom_some_eq_bodies {inside : Text}
    (inner : Text.trim inside = [] ∨ (Text.trim inside).head? = some '[') :
    bodiesFrom (some []) inside = bodies (Text.trim inside) := by
  rcases Text.exists_trim inside with ⟨before, after, blankBefore, blankAfter, equal⟩
  have around : bodiesFrom (some []) inside =
      bodiesFrom (some before.reverse) (Text.trim inside) := by
    conv => lhs; rw [equal]
    rw [bodiesFrom_append_unbracketed (unbracketed_of_isBlank blankAfter),
      bodiesFrom_append (unbracketed_of_isBlank blankBefore), Option.map_some, List.append_nil]
  rw [around, bodies]
  rcases inner with nothing | opening
  · rw [nothing]
    rfl
  · rcases trimmed : Text.trim inside with _ | ⟨c, rest⟩
    · rw [trimmed] at opening
      simp at opening
    · rw [trimmed] at opening
      obtain rfl : c = '[' := by simpa using opening
      rw [bodiesFrom_opening, bodiesFrom_opening]

/-- All blocks of a text are still there when its outer brackets are taken off, but for
one whose bracket was taken for an outer one. -/
theorem bodies_eq (text : Text) :
    bodies text = bodies (stripOuter text) ++ (clipped? text).toList := by
  rw [← bodies_trim text]
  rcases stripOuter_cases text with ⟨strips, clips⟩ | ⟨inside, trimmed, inner, strips, clips⟩
  · rw [strips, clips, Option.toList_none, List.append_nil]
  · rw [strips, clips, trimmed, ← bodiesFrom_some_eq_bodies inner,
      ← bodiesFrom_concat_closing]
    rfl

/-- What waits for a closing bracket at the end of a text began with the last bracket of
it, or there is no bracket in the text. -/
theorem cases_of_openFrom {open? : Option Text} {text characters : Text}
    (isOpen : openFrom open? text = some characters) :
    (∃ front, text = front ++ '[' :: characters.reverse ∧ Unbracketed characters.reverse) ∨
      Unbracketed text ∧ open?.map (text.reverse ++ ·) = some characters := by
  induction text generalizing open? with
  | nil => exact .inr ⟨unbracketed_nil, by simpa [openFrom] using isOpen⟩
  | cons c rest induction =>
      by_cases opening : c = '['
      · subst opening
        left
        rcases induction isOpen with ⟨front, equal, clean⟩ | ⟨clean, collected⟩
        · exact ⟨'[' :: front, by rw [equal, List.cons_append], clean⟩
        · have reversed : rest.reverse = characters := by simpa using collected
          rw [← reversed, List.reverse_reverse]
          exact ⟨[], rfl, clean⟩
      by_cases closing : c = ']'
      -- nothing waits behind a closing bracket, so another one must open in the rest
      · subst closing
        rcases induction isOpen with ⟨front, equal, clean⟩ | ⟨_, ⟨⟩⟩
        exact .inl ⟨']' :: front, by rw [equal, List.cons_append], clean⟩
      · rw [openFrom_cons opening closing] at isOpen
        rcases induction isOpen with ⟨front, equal, clean⟩ | ⟨clean, collected⟩
        · exact .inl ⟨c :: front, by rw [equal, List.cons_append], clean⟩
        · right
          constructor
          · simp only [Unbracketed, List.mem_cons, not_or]
            exact ⟨⟨Ne.symm opening, clean.1⟩, Ne.symm closing, clean.2⟩
          · cases open? with
            | none => cases collected
            | some before => simpa using collected

/-- A text that begins with two opening brackets and ends with a block. The bracket of that
block is where the one of the whole rule set should be. -/
def EndsInBlock (text body : Text) : Prop :=
  ∃ inside front, Text.trim text = '[' :: inside ++ [']'] ∧
    (Text.trim inside).head? = some '[' ∧ inside = front ++ '[' :: body ∧ Unbracketed body

/-- A block with something in it is clipped only at the end of such a text. -/
theorem clipped?_eq_some_iff {text body : Text} (visible : Text.isBlank body = false) :
    clipped? text = some body ↔ EndsInBlock text body := by
  constructor
  · intro clips
    rcases stripOuter_cases text with ⟨_, nothing⟩ | ⟨inside, trimmed, inner, _, isOpen⟩
    · rw [nothing] at clips
      cases clips
    rw [isOpen] at clips
    rcases Option.map_eq_some_iff.mp clips with ⟨characters, waiting, rfl⟩
    rcases cases_of_openFrom waiting with ⟨front, equal, clean⟩ | ⟨clean, collected⟩
    · refine ⟨inside, front, trimmed, inner.resolve_left fun nothing => ?_, equal, clean⟩
      have blank := unbracketed_of_isBlank (Text.trim_eq_nil_iff.mp nothing)
      exact blank.1 (by simp [equal])
    · have reversed : inside.reverse = characters := by simpa using collected
      obtain rfl : inside = characters.reverse := by rw [← reversed, List.reverse_reverse]
      rcases inner with nothing | opening
      · rw [Text.trim_eq_nil_iff.mp nothing] at visible
        cases visible
      · have bracket := (Text.sublist_trim _).subset (List.mem_of_mem_head? opening)
        exact absurd bracket clean.1
  · rintro ⟨inside, front, trimmed, opening, equal, clean⟩
    have waiting : openFrom (some []) inside = some body.reverse := by
      rw [equal, openFrom_append, openFrom_opening, openFrom_of_unbracketed clean]
      simp
    rcases stripOuter_cases text with ⟨strips, _⟩ | ⟨inside', trimmed', _, _, isOpen⟩
    · rw [stripOuter_of_trim_eq trimmed (.inr opening), trimmed] at strips
      have lengths := congrArg List.length strips
      have shorter := Text.length_trim_le inside
      simp only [List.cons_append, List.length_cons, List.length_append, List.length_nil]
        at lengths
      omega
    · obtain rfl : inside = inside' := by simpa [trimmed] using trimmed'
      rw [isOpen, waiting, Option.map_some, List.reverse_reverse]

/-! Where a body can be cut. -/

/-- Something stands before an arrow and something behind it. -/
def IsComplete (body : Text) : Prop :=
  ∃ before behind, before ≠ [] ∧ behind ≠ [] ∧ body = before ++ arrow ++ behind

theorem IsComplete.arrowed {body : Text} (complete : IsComplete body) : arrow <:+: body := by
  rcases complete with ⟨before, behind, _, _, equal⟩
  exact ⟨before, behind, equal.symm⟩

/-- The first arrow is found, so at least as much stands behind it as behind any other. -/
theorem exists_cutAtArrow?_of_append (before behind : Text) :
    ∃ front rest, cutAtArrow? (before ++ arrow ++ behind) = some (front, rest) ∧
      behind <:+ rest := by
  induction before with
  | nil =>
      have isArrow : Text.after? arrow (arrow ++ behind) = some behind :=
        Text.after?_eq_some_iff.mpr rfl
      refine ⟨[], behind, ?_, List.suffix_refl _⟩
      rw [List.nil_append, arrow_eq, List.cons_append, cutAtArrow?]
      rw [arrow_eq, List.cons_append] at isArrow
      rw [arrow_eq, isArrow]
  | cons c before induction =>
      rw [List.cons_append, List.cons_append, cutAtArrow?]
      rcases induction with ⟨front, rest, found, within⟩
      cases isArrow : Text.after? arrow (c :: (before ++ arrow ++ behind)) with
      | none => exact ⟨c :: front, rest, by rw [found]; rfl, within⟩
      | some tail =>
          refine ⟨[], tail, rfl, ?_⟩
          -- the arrow found here begins before the other one, so it also ends before it
          have equal := Text.after?_eq_some_iff.mp isArrow
          have whole : behind <:+ arrow ++ tail := by
            rw [← equal]
            exact (List.suffix_append _ _).trans (List.suffix_cons _ _)
          refine List.suffix_of_suffix_length_le whole (List.suffix_append _ _) ?_
          have lengths := congrArg List.length equal
          simp only [List.length_cons, List.length_append] at lengths
          omega

theorem isComplete_of_cut? {body condition actions : Text}
    (found : cut? body = some (condition, actions)) : IsComplete body := by
  rcases exists_of_cut?_eq_some found with ⟨blank, equal, hasActions, start⟩
  refine ⟨blank ++ condition, actions, ?_, hasActions, equal⟩
  rcases start with ⟨first, before, rfl, _⟩ | ⟨_, behindBlank⟩
  · simp
  · simp [behindBlank]

theorem exists_cut?_of_isComplete {body : Text} (complete : IsComplete body) :
    ∃ condition actions, cut? body = some (condition, actions) := by
  rcases complete with ⟨before, behind, hasBefore, hasBehind, equal⟩
  have longer : ∀ {rest : Text}, behind <:+ rest → ∃ c others, rest = c :: others := by
    intro rest within
    cases rest with
    | nil => exact absurd (List.suffix_nil.mp within) hasBehind
    | cons c others => exact ⟨c, others, rfl⟩
  have arrowStays : Text.trimStart (arrow ++ behind) = arrow ++ behind := by
    simp [Text.trimStart, arrow_eq, Character.isBlank]
  unfold cut?
  -- a cut wants something visible before the arrow, or else that blanks were dropped there
  by_cases blank : Text.isBlank before = true
  · have start : Text.trimStart body = '-' :: ('-' :: '>' :: behind) := by
      rw [equal, List.append_assoc, Text.trimStart_append_of_isBlank blank, arrowStays]
      rfl
    have isArrow : Text.after? arrow ('-' :: '-' :: '>' :: behind) = some behind :=
      Text.after?_eq_some_iff.mpr rfl
    rcases longer (List.suffix_refl behind) with ⟨c, others, isBehind⟩
    have apart : body ≠ '-' :: '-' :: '>' :: behind := by
      intro same
      have lengths := congrArg List.length (equal.symm.trans same)
      have positive := List.length_pos_of_ne_nil hasBefore
      simp only [List.length_append, List.length_cons, arrow_eq, List.length_nil] at lengths
      omega
    rw [start]
    dsimp only
    split
    · exact ⟨_, _, rfl⟩
    · rw [isArrow, isBehind]
      dsimp only
      rw [← isBehind, if_neg apart]
      exact ⟨_, _, rfl⟩
  · rcases begins : Text.trimStart before with _ | ⟨first, rest⟩
    · exact absurd (Text.trimStart_eq_nil_iff.mp begins) blank
    have start : Text.trimStart body = first :: (rest ++ arrow ++ behind) := by
      unfold Text.trimStart at begins ⊢
      rw [equal, List.append_assoc, List.dropWhile_append, begins]
      simp
    rcases exists_cutAtArrow?_of_append rest behind with ⟨front, tail, found, within⟩
    rcases longer within with ⟨c, others, isTail⟩
    rw [start]
    dsimp only
    rw [found, isTail]
    exact ⟨_, _, rfl⟩

theorem cut?_isSome_iff {body : Text} : (cut? body).isSome ↔ IsComplete body := by
  constructor
  · intro found
    rcases Option.isSome_iff_exists.mp found with ⟨⟨condition, actions⟩, cut⟩
    exact isComplete_of_cut? cut
  · intro complete
    rcases exists_cut?_of_isComplete complete with ⟨condition, actions, cut⟩
    exact Option.isSome_iff_exists.mpr ⟨_, cut⟩

end RobotRules.Block
