import RobotRules.Proofs.Operator.Occurrence
import RobotRules.Rule.Block

/-! The blocks of a text, and how a block is cut. A pair of brackets with no bracket
between them is found wherever it stands, and a body whose arrow is the first one is
cut at it. -/

namespace RobotRules.Block

/-- A text that can stand inside a block. -/
def Unbracketed (text : Text) : Prop := '[' ∉ text ∧ ']' ∉ text

/-- A text without an arrow in it. -/
def Arrowless (text : Text) : Prop := ¬arrow <:+: text

theorem arrow_eq : arrow = ['-', '-', '>'] := rfl

/-! Brackets. -/

theorem unbracketed_iff {text : Text} :
    Unbracketed text ↔ ∀ c ∈ text, c ≠ '[' ∧ c ≠ ']' := by
  constructor
  · rintro unbracketed c member
    exact ⟨fun opening => unbracketed.1 (opening ▸ member),
      fun closing => unbracketed.2 (closing ▸ member)⟩
  · intro plain
    exact ⟨fun member => (plain '[' member).1 rfl, fun member => (plain ']' member).2 rfl⟩

@[simp] theorem unbracketed_nil : Unbracketed [] := by simp [Unbracketed]

@[simp] theorem unbracketed_append {left right : Text} :
    Unbracketed (left ++ right) ↔ Unbracketed left ∧ Unbracketed right := by
  simp only [Unbracketed, List.mem_append, not_or]
  tauto

theorem Unbracketed.of_subset {text whole : Text} (unbracketed : Unbracketed whole)
    (subset : text ⊆ whole) : Unbracketed text :=
  ⟨fun member => unbracketed.1 (subset member), fun member => unbracketed.2 (subset member)⟩

theorem unbracketed_of_isBlank {text : Text} (blank : Text.isBlank text = true) :
    Unbracketed text := by
  constructor
  · exact fun member => absurd (Text.mem_isBlank blank member) (by decide)
  · exact fun member => absurd (Text.mem_isBlank blank member) (by decide)

theorem bodiesFrom_opening (open? : Option Text) (rest : Text) :
    bodiesFrom open? ('[' :: rest) = bodiesFrom (some []) rest := rfl

theorem bodiesFrom_closing_some (characters rest : Text) :
    bodiesFrom (some characters) (']' :: rest) =
      characters.reverse :: bodiesFrom none rest := rfl

theorem bodiesFrom_closing_none (rest : Text) :
    bodiesFrom none (']' :: rest) = bodiesFrom none rest := rfl

theorem bodiesFrom_cons {c : Char} (opening : c ≠ '[') (closing : c ≠ ']')
    (body : Option Text) (rest : Text) :
    bodiesFrom body (c :: rest) = bodiesFrom (body.map (c :: ·)) rest := by
  rw [bodiesFrom]
  · exact opening
  · exact closing

/-- What stands between brackets is only collected. -/
theorem bodiesFrom_append {part : Text} (unbracketed : Unbracketed part)
    (body : Option Text) (rest : Text) :
    bodiesFrom body (part ++ rest) = bodiesFrom (body.map (part.reverse ++ ·)) rest := by
  induction part generalizing body with
  | nil => simp
  | cons c part induction =>
      simp only [Unbracketed, List.mem_cons, not_or] at unbracketed
      rw [List.cons_append, bodiesFrom_cons (Ne.symm unbracketed.1.1)
        (Ne.symm unbracketed.2.1), induction ⟨unbracketed.1.2, unbracketed.2.2⟩]
      cases body <;> simp

theorem bodiesFrom_block {body : Text} (unbracketed : Unbracketed body)
    (before : Option Text) (rest : Text) :
    bodiesFrom before ('[' :: body ++ ']' :: rest) = body :: bodiesFrom none rest := by
  rw [List.cons_append, bodiesFrom_opening, bodiesFrom_append unbracketed, Option.map_some,
    bodiesFrom_closing_some]
  simp

/-- Bodies have no brackets in them. -/
theorem unbracketed_of_mem_bodiesFrom {text body : Text} {open? : Option Text}
    (clean : ∀ characters, open? = some characters → Unbracketed characters)
    (member : body ∈ bodiesFrom open? text) : Unbracketed body := by
  induction text generalizing open? with
  | nil => simp [bodiesFrom] at member
  | cons c rest induction =>
      by_cases opening : c = '['
      · subst opening
        exact induction (by simp) member
      · by_cases closing : c = ']'
        · subst closing
          cases open? with
          | none => exact induction (by simp) member
          | some characters =>
              rw [bodiesFrom_closing_some] at member
              rcases List.mem_cons.mp member with same | later
              · have inside := clean characters rfl
                rw [same]
                exact inside.of_subset fun _ inBody => by simpa using inBody
              · exact induction (by simp) later
        · rw [bodiesFrom_cons opening closing] at member
          refine induction (fun characters equal => ?_) member
          rcases Option.map_eq_some_iff.mp equal with ⟨inner, isOpen, longer⟩
          have inside := clean inner isOpen
          rw [← longer]
          simp only [Unbracketed, List.mem_cons, not_or]
          exact ⟨⟨Ne.symm opening, inside.1⟩, ⟨Ne.symm closing, inside.2⟩⟩

theorem bodiesFrom_append_unbracketed {after : Text} (unbracketed : Unbracketed after)
    (open? : Option Text) (text : Text) :
    bodiesFrom open? (text ++ after) = bodiesFrom open? text := by
  induction text generalizing open? with
  | nil =>
      rw [← List.append_nil ([] ++ after), List.nil_append, bodiesFrom_append unbracketed]
      rfl
  | cons c rest induction =>
      rw [List.cons_append]
      by_cases opening : c = '['
      · rw [opening, bodiesFrom_opening, bodiesFrom_opening, induction]
      · by_cases closing : c = ']'
        · subst closing
          cases open? with
          | none => rw [bodiesFrom_closing_none, bodiesFrom_closing_none, induction]
          | some characters =>
              rw [bodiesFrom_closing_some, bodiesFrom_closing_some, induction]
        · rw [bodiesFrom_cons opening closing, bodiesFrom_cons opening closing, induction]

/-- White space around a text holds no block. -/
theorem bodies_trim (text : Text) : bodies (Text.trim text) = bodies text := by
  rcases Text.exists_trim text with ⟨before, after, blankBefore, blankAfter, equal⟩
  have around : bodies (before ++ Text.trim text ++ after) = bodies (Text.trim text) := by
    unfold bodies
    rw [bodiesFrom_append_unbracketed (unbracketed_of_isBlank blankAfter),
      bodiesFrom_append (unbracketed_of_isBlank blankBefore)]
    rfl
  rw [← around, ← equal]

/-- The brackets around a rule set are taken off if nothing or another bracket stands
behind the first one. -/
theorem stripOuter_of_trim_eq {text inside : Text}
    (equal : Text.trim text = '[' :: inside ++ [']'])
    (inner : Text.trim inside = [] ∨ (Text.trim inside).head? = some '[') :
    stripOuter text = Text.trim inside := by
  unfold stripOuter
  rw [equal]
  rcases inner with nothing | opening
  · simp [nothing]
  · simp [opening]

/-! Arrows. -/

theorem arrowless_of_not_mem {text : Text} (absent : '>' ∉ text) : Arrowless text :=
  fun within => absent (within.subset (by simp [arrow_eq]))

/-- An arrow does not run over a character that is not in it. -/
theorem arrowless_append_cons {c : Char} (apart : c ∉ arrow) {left right : Text} :
    Arrowless (left ++ c :: right) ↔ Arrowless left ∧ Arrowless right := by
  constructor
  · intro arrowless
    constructor
    · exact fun within => arrowless (within.trans (List.prefix_append _ _).isInfix)
    · exact fun within => arrowless (within.trans
        ((List.suffix_cons c right).trans (List.suffix_append _ _)).isInfix)
  · rintro ⟨arrowlessLeft, arrowlessRight⟩ ⟨before, after, equal⟩
    rcases Operator.cases_of_append_eq equal.symm with
      ⟨middle, _, inRight⟩ | ⟨middle, inLeft, _⟩ | ⟨front, back, _, hasBack, across, _, inRight⟩
    · rcases middle with _ | ⟨d, middle⟩
      · rw [arrow_eq] at inRight apart
        injection inRight with same
        exact apart (by simp [same])
      · injection inRight with _ others
        exact arrowlessRight ⟨middle, after, others.symm⟩
    · exact arrowlessLeft ⟨before, middle, inLeft.symm⟩
    · rcases back with _ | ⟨d, back⟩
      · exact hasBack rfl
      · injection inRight with same
        exact apart (by simp [across, same])

theorem arrowless_nil : Arrowless [] := arrowless_of_not_mem (by simp)

theorem arrowless_cons {c : Char} (apart : c ∉ arrow) {text : Text} :
    Arrowless (c :: text) ↔ Arrowless text := by
  constructor
  · exact fun arrowless => (@arrowless_append_cons c apart [] text).mp arrowless |>.2
  · exact fun arrowless => (arrowless_append_cons apart).mpr ⟨arrowless_nil, arrowless⟩

theorem exists_of_cutAtArrow?_eq_some {text before behind : Text}
    (found : cutAtArrow? text = some (before, behind)) :
    text = before ++ arrow ++ behind ∧ Arrowless before := by
  induction text generalizing before behind with
  | nil => simp [cutAtArrow?] at found
  | cons c rest induction =>
      rw [cutAtArrow?] at found
      split at found
      · rename_i after isArrow
        rw [Text.after?_eq_some_iff] at isArrow
        simp only [Option.some.injEq, Prod.mk.injEq] at found
        rw [← found.1, ← found.2, isArrow]
        exact ⟨rfl, by simp [Arrowless, arrow_eq]⟩
      · rename_i notHere
        rcases Option.map_eq_some_iff.mp found with ⟨⟨rest', behind'⟩, later, equal⟩
        simp only [Prod.mk.injEq] at equal
        rcases induction later with ⟨cut, arrowless⟩
        rw [← equal.1, ← equal.2]
        refine ⟨by rw [cut, List.cons_append, List.cons_append], fun within => ?_⟩
        rcases List.infix_cons_iff.mp within with atFront | later
        · rcases atFront with ⟨tail, front⟩
          have isArrow : Text.after? arrow (c :: rest) = some (tail ++ (arrow ++ behind')) := by
            rw [Text.after?_eq_some_iff, cut, ← List.append_assoc, front]
            simp
          rw [isArrow] at notHere
          exact absurd notHere (by simp)
        · exact arrowless later

/-- A text is cut at the arrow behind a space if there is none before. -/
theorem cutAtArrow?_append {before : Text} (arrowless : Arrowless before) (behind : Text) :
    cutAtArrow? (before ++ ' ' :: (arrow ++ behind)) = some (before ++ [' '], behind) := by
  induction before with
  | nil => simp [cutAtArrow?, Text.after?, arrow_eq]
  | cons c before induction =>
      have notHere : Text.after? arrow (c :: before ++ ' ' :: (arrow ++ behind)) = none := by
        rw [Option.eq_none_iff_forall_not_mem]
        intro tail found
        have equal := Text.after?_eq_some_iff.mp found
        rcases List.append_eq_append_iff.mp equal with
          ⟨middle, short, across⟩ | ⟨middle, within, _⟩
        · rcases middle with _ | ⟨d, middle⟩
          · exact arrowless ⟨[], [], by simpa using short⟩
          · injection across with space
            have inArrow : ' ' ∈ arrow := by simp [short, ← space]
            exact absurd inArrow (by decide)
        · exact arrowless ⟨[], middle, by rw [within]; rfl⟩
      have tail := induction fun within => arrowless (List.infix_cons_iff.mpr (.inr within))
      rw [List.cons_append] at notHere ⊢
      rw [cutAtArrow?, notHere, tail]
      rfl

/-! Bodies. -/

/-- A body is cut at an arrow with something behind it. Its condition begins with a character that
is not looked at when the arrow is searched for, or else there is none, but white space. -/
theorem exists_of_cut?_eq_some {body condition actions : Text}
    (found : cut? body = some (condition, actions)) :
    ∃ blank, body = blank ++ condition ++ arrow ++ actions ∧ actions ≠ [] ∧
      ((∃ first before, condition = first :: before ∧ Arrowless before) ∨
        (condition = [] ∧ blank ≠ [])) := by
  rcases Text.exists_trimStart body with ⟨blank, _, equal⟩
  unfold cut? at found
  split at found
  · simp at found
  · rename_i first rest visible
    rw [visible] at equal
    split at found
    · rename_i before c behind cut
      rcases exists_of_cutAtArrow?_eq_some cut with ⟨atArrow, arrowless⟩
      simp only [Option.some.injEq, Prod.mk.injEq] at found
      rcases found with ⟨rfl, rfl⟩
      exact ⟨blank, by simp [equal, atArrow], by simp, .inl ⟨first, before, rfl, arrowless⟩⟩
    · split at found
      · rename_i c behind isArrow
        split_ifs at found with nothing
        rw [Text.after?_eq_some_iff] at isArrow
        simp only [Option.some.injEq, Prod.mk.injEq] at found
        rcases found with ⟨rfl, rfl⟩
        have behindBlank : blank ≠ [] := by
          rintro rfl
          exact nothing equal
        exact ⟨blank, by simp [equal, isArrow], by simp, .inr ⟨rfl, behindBlank⟩⟩
      · simp at found

theorem cut?_append {first : Char} {before : Text} (visible : Character.isBlank first = false)
    (arrowless : Arrowless before) (c : Char) (behind : Text) :
    cut? (first :: before ++ ' ' :: (arrow ++ c :: behind)) =
      some (first :: before ++ [' '], c :: behind) := by
  have start : Text.trimStart (first :: before ++ ' ' :: (arrow ++ c :: behind)) =
      first :: (before ++ ' ' :: (arrow ++ c :: behind)) := by
    simp [Text.trimStart, visible]
  unfold cut?
  rw [start]
  dsimp only
  rw [cutAtArrow?_append arrowless]
  rfl

end RobotRules.Block
