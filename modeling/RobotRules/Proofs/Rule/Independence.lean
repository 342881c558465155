import RobotRules.Proofs.Rule.Stripping
import RobotRules.Rule.Parser

/-! Blocks are independent. What a rule set gives is what its blocks give one by one,
whatever stands around them and between them. -/

namespace RobotRules

namespace Block

/-- A text between two brackets. -/
def enclose (text : Text) : Text := '[' :: text ++ [']']

/-- A text in which blocks follow one another. Each body is given with what stands behind
its block. -/
def inRow (start : Text) (blocks : List (Text × Text)) : Text :=
  start ++ blocks.flatMap fun (body, after) => enclose body ++ after

example : inRow "a" [("b", " "), ("c", "")] = "a[b] [c]" := by decide

theorem inRow_cons (start body after : Text) (blocks : List (Text × Text)) :
    inRow start ((body, after) :: blocks) = start ++ enclose body ++ inRow after blocks := by
  simp [inRow]

variable {start body after : Text} {blocks : List (Text × Text)}

theorem bodiesFrom_enclose (clean : Unbracketed body) (before : Option Text) (rest : Text) :
    bodiesFrom before (enclose body ++ rest) = body :: bodiesFrom none rest := by
  have block := bodiesFrom_block clean before rest
  rwa [enclose, List.append_assoc, List.singleton_append]

theorem bodiesFrom_inRow (cleanStart : Unbracketed start)
    (clean : ∀ block ∈ blocks, Unbracketed block.1 ∧ Unbracketed block.2)
    (nonempty : blocks ≠ []) (open? : Option Text) :
    bodiesFrom open? (inRow start blocks) = blocks.map Prod.fst := by
  induction blocks generalizing start open? with
  | nil => exact absurd rfl nonempty
  | cons block others induction =>
      rcases block with ⟨body, after⟩
      have here := clean (body, after) (by simp)
      rw [inRow_cons, List.append_assoc, bodiesFrom_append cleanStart,
        bodiesFrom_enclose here.1, List.map_cons]
      congr 1
      -- what stands behind this block is the start of the others
      cases others with
      | nil =>
          have alone : bodiesFrom none ([] ++ after) = [] :=
            bodiesFrom_append_unbracketed here.2 none []
          simpa [inRow] using alone
      | cons other others =>
          exact induction here.2 (fun block member => clean block (by simp [member]))
            (by simp) none

/-- Behind a row of blocks no bracket is open. -/
theorem openFrom_inRow (cleanStart : Unbracketed start)
    (clean : ∀ block ∈ blocks, Unbracketed block.1 ∧ Unbracketed block.2)
    (nonempty : blocks ≠ []) (open? : Option Text) :
    openFrom open? (inRow start blocks) = none := by
  induction blocks generalizing start open? with
  | nil => exact absurd rfl nonempty
  | cons block others induction =>
      rcases block with ⟨body, after⟩
      have here := clean (body, after) (by simp)
      have closed : openFrom (openFrom open? start) (enclose body) = none := by
        rw [enclose, openFrom_append]
        rfl
      rw [inRow_cons, openFrom_append, openFrom_append, closed]
      cases others with
      | nil => simp [inRow, openFrom_of_unbracketed here.2]
      | cons other others =>
          exact induction here.2 (fun block member => clean block (by simp [member]))
            (by simp) none

/-- The blocks of a text are read if its last bracket is not taken off one of them. -/
theorem ofText_stripOuter {text : Text}
    (kept : ∀ body, clipped? text = some body → ofBody? body = none) :
    ofText (stripOuter text) = (bodies text).filterMap ofBody? := by
  have lost : (clipped? text).toList.filterMap ofBody? = [] := by
    cases clips : clipped? text with
    | none => rfl
    | some body => simp [kept body clips]
  rw [ofText, bodies_eq text, List.filterMap_append, lost, List.append_nil]

theorem ofBody?_of_isBlank (blank : Text.isBlank body = true) : ofBody? body = none := by
  have nothing : Text.trimStart body = [] := Text.trimStart_eq_nil_iff.mpr blank
  simp [ofBody?, cut?, nothing]

/-- The first bracket of a text is at one place only. -/
theorem append_bracket_inj {left right : Text} {c d : Char} {behind behind' : Text}
    (cleanLeft : Unbracketed left) (cleanRight : Unbracketed right)
    (bracket : c = '[' ∨ c = ']') (bracket' : d = '[' ∨ d = ']')
    (equal : left ++ c :: behind = right ++ d :: behind') : c = d ∧ behind = behind' := by
  have notIn : ∀ {text : Text} {e : Char}, Unbracketed text → e = '[' ∨ e = ']' → e ∉ text := by
    rintro text e clean (rfl | rfl)
    · exact clean.1
    · exact clean.2
  induction left generalizing right with
  | nil =>
      cases right with
      | nil => exact List.cons.inj equal
      | cons e right =>
          have same : c = e := (List.cons.inj equal).1
          exact absurd (by simp [same]) (notIn cleanRight bracket)
  | cons e left induction =>
      cases right with
      | nil =>
          have same : e = d := (List.cons.inj equal).1
          exact absurd (by simp [same]) (notIn cleanLeft bracket')
      | cons f right =>
          exact induction (cleanLeft.of_subset (by simp)) (cleanRight.of_subset (by simp))
            (List.cons.inj equal).2

/-- Nothing but a blank body is clipped off a text whose first bracket opens a block. -/
theorem isBlank_of_clipped?_eq_some {text lost behind : Text} (cleanStart : Unbracketed start)
    (clean : Unbracketed body) (equal : text = start ++ '[' :: (body ++ ']' :: behind))
    (clips : clipped? text = some lost) : Text.isBlank lost = true := by
  rcases stripOuter_cases text with ⟨_, nothing⟩ | ⟨inside, trimmed, inner, _, isOpen⟩
  · rw [nothing] at clips
    cases clips
  rcases inner with blank | opening
  · have blankInside := Text.trim_eq_nil_iff.mp blank
    rw [isOpen, openFrom_of_unbracketed (unbracketed_of_isBlank blankInside)] at clips
    have same : inside = lost := by simpa using clips
    exact same ▸ blankInside
  · rcases Text.exists_trim text with ⟨before, after, blankBefore, _, around⟩
    rcases Text.exists_trim inside with ⟨gap, tail, blankGap, _, spaced⟩
    rcases begins : Text.trim inside with _ | ⟨c, rest⟩
    · rw [begins] at opening
      cases opening
    obtain rfl : c = '[' := by simpa [begins] using opening
    have first : before ++ '[' :: (inside ++ ']' :: after) =
        start ++ '[' :: (body ++ ']' :: behind) := by
      rw [← equal, around, trimmed]
      simp
    -- the second bracket of the text would open here, but it closes the first block
    have second := (append_bracket_inj (unbracketed_of_isBlank blankBefore) cleanStart (.inl rfl)
      (.inl rfl) first).2
    rw [spaced, begins, List.append_assoc, List.append_assoc, List.cons_append] at second
    have different := (append_bracket_inj (unbracketed_of_isBlank blankGap) clean (.inl rfl)
      (.inr rfl) second).1
    exact absurd different (by decide)

theorem ofText_inRow (cleanStart : Unbracketed start)
    (clean : ∀ block ∈ blocks, Unbracketed block.1 ∧ Unbracketed block.2)
    (nonempty : blocks ≠ []) :
    ofText (stripOuter (inRow start blocks)) = (blocks.map Prod.fst).filterMap ofBody? := by
  rw [ofText_stripOuter, bodies, bodiesFrom_inRow cleanStart clean nonempty]
  intro lost clips
  apply ofBody?_of_isBlank
  rcases blocks with _ | ⟨⟨body, after⟩, others⟩
  · exact absurd rfl nonempty
  · have first : inRow start ((body, after) :: others) =
        start ++ '[' :: (body ++ ']' :: inRow after others) := by
      simp [inRow_cons, enclose]
    exact isBlank_of_clipped?_eq_some cleanStart (clean (body, after) (by simp)).1 first clips

theorem ofText_enclose_inRow (cleanStart : Unbracketed start)
    (clean : ∀ block ∈ blocks, Unbracketed block.1 ∧ Unbracketed block.2)
    (nonempty : blocks ≠ []) :
    ofText (stripOuter (enclose (inRow start blocks))) =
      (blocks.map Prod.fst).filterMap ofBody? := by
  have closed := openFrom_inRow cleanStart clean nonempty (some [])
  have inside : bodies (enclose (inRow start blocks)) = blocks.map Prod.fst := by
    rw [bodies, enclose, List.cons_append, bodiesFrom_opening, bodiesFrom_concat_closing, closed,
      bodiesFrom_inRow cleanStart clean nonempty]
    exact List.append_nil _
  rw [ofText_stripOuter, inside]
  intro lost clips
  rcases stripOuter_cases (enclose (inRow start blocks)) with
    ⟨_, nothing⟩ | ⟨inner, trimmed, _, _, isOpen⟩
  · rw [nothing] at clips
    cases clips
  · have whole : Text.trim (enclose (inRow start blocks)) = enclose (inRow start blocks) := by
      apply Text.trim_eq_self
      · rintro c first
        obtain rfl : '[' = c := by simpa [enclose] using first
        rfl
      · rintro c last
        rw [enclose, List.getLast?_concat] at last
        exact Option.some.inj last ▸ rfl
    rw [whole, enclose] at trimmed
    obtain rfl : inRow start blocks = inner := by simpa using trimmed
    rw [isOpen, closed] at clips
    cases clips

theorem ofText_enclose (clean : Unbracketed body) :
    ofText (stripOuter (enclose body)) = [body].filterMap ofBody? := by
  have cleanAll : ∀ block ∈ [(body, ([] : Text))], Unbracketed block.1 ∧ Unbracketed block.2 := by
    simp [clean]
  have alone := ofText_inRow unbracketed_nil cleanAll (by simp)
  rwa [inRow_cons, inRow, List.nil_append, List.flatMap_nil, List.append_nil, List.append_nil]
    at alone

end Block

namespace Rule

open Block (Unbracketed enclose inRow)

theorem ofBlocks_append (left right : List Block) :
    ofBlocks (left ++ right) =
      ((ofBlocks left).1 ++ (ofBlocks right).1, (ofBlocks left).2 ++ (ofBlocks right).2) := by
  induction left with
  | nil => rfl
  | cons block left induction =>
      rw [List.cons_append, ofBlocks, ofBlocks, induction]
      cases parse block.condition block.actions <;> rfl

/-- The results of several texts, one behind the other. -/
def together (results : List (List Rule × Log)) : List Rule × Log :=
  (results.flatMap Prod.fst, results.flatMap Prod.snd)

theorem ofBlocks_filterMap (bodies : List Text) (clean : ∀ body ∈ bodies, Unbracketed body) :
    ofBlocks (bodies.filterMap Block.ofBody?) =
      together (bodies.map fun body => parseAll (enclose body)) := by
  induction bodies with
  | nil => rfl
  | cons body others induction =>
      have alone : parseAll (enclose body) = ofBlocks ([body].filterMap Block.ofBody?) := by
        rw [parseAll, Block.ofText_enclose (clean body (by simp))]
      rw [← List.singleton_append, List.filterMap_append, ofBlocks_append,
        induction fun other member => clean other (by simp [member]), List.map_append]
      simp [together, alone]

/-- What blocks in a row give is what each of them gives by itself, in order, with and
without brackets around the row. So no block changes the rules or the warnings of another,
and what stands between the blocks gives none. -/
theorem parseAll_inRow {start : Text} {blocks : List (Text × Text)} (nonempty : blocks ≠ [])
    (cleanStart : Unbracketed start)
    (clean : ∀ block ∈ blocks, Unbracketed block.1 ∧ Unbracketed block.2) :
    let alone := together (blocks.map fun block => parseAll (enclose block.1))
    parseAll (inRow start blocks) = alone ∧ parseAll (enclose (inRow start blocks)) = alone := by
  intro alone
  have cleanBodies : ∀ body ∈ blocks.map Prod.fst, Unbracketed body := by
    intro body member
    rcases List.mem_map.mp member with ⟨block, inBlocks, equal⟩
    exact equal ▸ (clean block inBlocks).1
  have oneByOne : ofBlocks ((blocks.map Prod.fst).filterMap Block.ofBody?) = alone := by
    rw [ofBlocks_filterMap _ cleanBodies, List.map_map]
    rfl
  constructor
  · rw [parseAll, Block.ofText_inRow cleanStart clean nonempty, oneByOne]
  · rw [parseAll, Block.ofText_enclose_inRow cleanStart clean nonempty, oneByOne]

/-- A block without actions, a blank one and an arrow between blocks leave the rule behind
them as it is. -/
theorem parseAll_inRow_malformed :
    let start : Text := " a --> "
    let blocks : List (Text × Text) :=
      [("c --> ", "d --> e"), (" ", "\n"), ("\"a\" --> \"b\"", "-->")]
    (blocks ≠ [] ∧ Unbracketed start ∧
        ∀ block ∈ blocks, Unbracketed block.1 ∧ Unbracketed block.2) ∧
      let alone := together (blocks.map fun block => parseAll (enclose block.1))
      parseAll (inRow start blocks) = alone ∧
        parseAll (enclose (inRow start blocks)) = alone := by
  intro start blocks
  have nonempty : blocks ≠ [] := by simp [blocks]
  have cleanStart : Unbracketed start := ⟨by decide, by decide⟩
  have clean : ∀ block ∈ blocks, Unbracketed block.1 ∧ Unbracketed block.2 := by
    simp only [blocks, List.forall_mem_cons]
    exact ⟨⟨⟨by decide, by decide⟩, by decide, by decide⟩,
      ⟨⟨by decide, by decide⟩, by decide, by decide⟩,
      ⟨⟨by decide, by decide⟩, by decide, by decide⟩, by simp⟩
  exact ⟨⟨nonempty, cleanStart, clean⟩, parseAll_inRow nonempty cleanStart clean⟩

end Rule

end RobotRules
