import Mathlib.Data.List.Infix
import RobotRules.Proofs.Rule.Stripping
import RobotRules.Rule.Parser

/-! Which blocks a rule set accounts for. A block that is read gives one rule or one
warning. A block with an arrow is read unless it has nothing before or behind the arrow,
or its closing bracket was taken for the one of the whole rule set; then nothing tells of
it. -/

namespace RobotRules

/-! What comes of a block. -/

namespace Rule

/-- What a block gives: a rule, or the warning that it is none. -/
def outcome (block : Block) : Rule ⊕ LogEntry :=
  match parse block.condition block.actions with
  | .ok rule => .inl rule
  | .error error => .inr (warning block error)

theorem ofBlocks_eq (blocks : List Block) :
    ofBlocks blocks = ((blocks.map outcome).filterMap Sum.getLeft?,
      (blocks.map outcome).filterMap Sum.getRight?) := by
  induction blocks with
  | nil => rfl
  | cons block blocks induction =>
      rw [ofBlocks, induction, List.map_cons, outcome]
      cases parse block.condition block.actions <;> rfl

/-- An outcome tells of a block with this body: a rule was read from its two parts, or a
warning names it. -/
def Tells (body : Text) : Rule ⊕ LogEntry → Prop
  | .inl rule => ∃ condition actions, Block.cut? body = some (condition, actions) ∧
      parse condition actions = .ok rule
  | .inr entry => entry.severity = .warning ∧ entry.channel = channel ∧
      ("Invalid rule [".toList ++ body ++ "]: ".toList) <+: entry.message

/-- Rules and warnings tell of blocks with these bodies, one of each, in order. -/
def TellsOfAll (bodies : List Text) (results : List Rule × Log) : Prop :=
  ∃ outcomes, List.Forall₂ Tells bodies outcomes ∧
    results = (outcomes.filterMap Sum.getLeft?, outcomes.filterMap Sum.getRight?)

theorem tells_outcome {body condition actions : Text}
    (cut : Block.cut? body = some (condition, actions)) :
    Tells body (outcome ⟨body, condition, actions⟩) := by
  unfold outcome
  cases read : parse condition actions with
  | ok rule => exact ⟨condition, actions, cut, read⟩
  | error error => exact ⟨rfl, rfl, error.message, by simp [warning, Block.source]⟩

theorem length_getLeft?_add_getRight? (outcomes : List (Rule ⊕ LogEntry)) :
    (outcomes.filterMap Sum.getLeft?).length + (outcomes.filterMap Sum.getRight?).length =
      outcomes.length := by
  induction outcomes with
  | nil => rfl
  | cons outcome outcomes induction =>
      cases outcome with
      | inl rule =>
          rw [List.filterMap_cons_some (rfl : Sum.getLeft? (.inl rule) = some rule),
            List.filterMap_cons_none (rfl : Sum.getRight? (.inl rule) = none)]
          simp only [List.length_cons]
          omega
      | inr entry =>
          rw [List.filterMap_cons_none (rfl : Sum.getLeft? (.inr entry) = none),
            List.filterMap_cons_some (rfl : Sum.getRight? (.inr entry) = some entry)]
          simp only [List.length_cons]
          omega

theorem TellsOfAll.length_eq {bodies : List Text} {results : List Rule × Log}
    (tells : TellsOfAll bodies results) :
    results.1.length + results.2.length = bodies.length := by
  rcases tells with ⟨outcomes, pairs, equal⟩
  rw [equal, pairs.length_eq]
  exact length_getLeft?_add_getRight? outcomes

theorem tellsOfAll_ofBlocks (bodies : List Text) :
    TellsOfAll (bodies.filter fun body => (Block.cut? body).isSome)
      (ofBlocks (bodies.filterMap Block.ofBody?)) := by
  refine ⟨(bodies.filterMap Block.ofBody?).map outcome, ?_, ofBlocks_eq _⟩
  induction bodies with
  | nil => exact .nil
  | cons body bodies induction =>
      cases cut : Block.cut? body with
      | none =>
          have unread : Block.ofBody? body = none := by rw [Block.ofBody?, cut]; rfl
          rw [List.filter_cons_of_neg (by simp [cut]), List.filterMap_cons_none unread]
          exact induction
      | some parts =>
          have isRead : Block.ofBody? body = some ⟨body, parts.1, parts.2⟩ := by
            rw [Block.ofBody?, cut]; rfl
          rw [List.filter_cons_of_pos (by simp [cut]), List.filterMap_cons_some isRead]
          exact .cons (tells_outcome cut) induction

/-- The bodies that are read: they are left when the outer brackets are taken off, and have
something before and behind an arrow. -/
def readBodies (text : Text) : List Text :=
  (Block.bodies (Block.stripOuter text)).filter fun body => (Block.cut? body).isSome

theorem tellsOfAll_readBodies (text : Text) : TellsOfAll (readBodies text) (parseAll text) :=
  tellsOfAll_ofBlocks _

/-- Whether there is an arrow in a text. -/
def hasArrow (text : Text) : Bool := text.tails.any arrow.isPrefixOf

theorem hasArrow_iff {text : Text} : hasArrow text = true ↔ arrow <:+: text := by
  simp only [hasArrow, List.any_eq_true, List.mem_tails, List.isPrefixOf_iff_prefix,
    List.infix_iff_prefix_suffix]
  exact exists_congr fun _ => and_comm

/-- The bodies with an arrow in them. -/
def arrowedBodies (text : Text) : List Text := (Block.bodies text).filter hasArrow

/-- No block is lost: each one with an arrow has something before and behind an arrow, and
the bracket of none stands where the one of the whole rule set should be. -/
def KeepsBlocks (text : Text) : Prop :=
  (∀ body ∈ arrowedBodies text, Block.IsComplete body) ∧
    ∀ body, Block.EndsInBlock text body → ¬arrow <:+: body

theorem isBlank_of_arrowed {body : Text} (arrowed : arrow <:+: body) :
    Text.isBlank body = false := by
  by_contra blank
  have inBody : '-' ∈ body := arrowed.subset (by decide)
  exact absurd (Text.mem_isBlank (by simpa using blank) inBody) (by decide)

theorem filter_read_sublist (bodies : List Text) :
    (bodies.filter fun body => (Block.cut? body).isSome).Sublist (bodies.filter hasArrow) := by
  refine List.monotone_filter_right bodies fun body isRead => ?_
  exact hasArrow_iff.mpr (Block.cut?_isSome_iff.mp isRead).arrowed

theorem arrowedBodies_eq (text : Text) :
    arrowedBodies text = (Block.bodies (Block.stripOuter text)).filter hasArrow ++
      (Block.clipped? text).toList.filter hasArrow := by
  rw [arrowedBodies, Block.bodies_eq, List.filter_append]

theorem readBodies_sublist (text : Text) : (readBodies text).Sublist (arrowedBodies text) := by
  rw [arrowedBodies_eq]
  exact (filter_read_sublist _).trans (List.sublist_append_left _ _)

/-- All blocks with an arrow are read just if none of them is lost. -/
theorem readBodies_eq_iff {text : Text} :
    readBodies text = arrowedBodies text ↔ KeepsBlocks text := by
  constructor
  · intro same
    constructor
    · intro body member
      rw [← same] at member
      exact Block.cut?_isSome_iff.mp (List.mem_filter.mp member).2
    · intro body ends arrowed
      have clips := (Block.clipped?_eq_some_iff (isBlank_of_arrowed arrowed)).mpr ends
      have fewer := (filter_read_sublist (Block.bodies (Block.stripOuter text))).length_le
      have lengths := congrArg List.length same
      rw [arrowedBodies_eq, clips, Option.toList_some,
        List.filter_cons_of_pos (hasArrow_iff.mpr arrowed), List.length_append] at lengths
      simp only [readBodies, List.length_cons] at lengths
      omega
  · rintro ⟨complete, kept⟩
    have nothing : (Block.clipped? text).toList.filter hasArrow = [] := by
      rw [List.filter_eq_nil_iff]
      intro body member found
      have arrowed := hasArrow_iff.mp found
      have clips : Block.clipped? text = some body := by simpa using member
      exact kept body ((Block.clipped?_eq_some_iff (isBlank_of_arrowed arrowed)).mp clips) arrowed
    rw [arrowedBodies_eq] at complete ⊢
    rw [nothing, List.append_nil] at complete ⊢
    refine List.filter_congr fun body member => ?_
    rw [Bool.eq_iff_iff, Block.cut?_isSome_iff, hasArrow_iff]
    constructor
    · exact Block.IsComplete.arrowed
    · exact fun arrowed => complete body (List.mem_filter.mpr ⟨member, hasArrow_iff.mpr arrowed⟩)

/-- The rules and the warnings tell of the blocks that are read, one of each, in order. They
tell of every block with an arrow, and there are as many of them as of these, just if no
block is lost. -/
theorem parseAll_accounts (text : Text) :
    TellsOfAll (readBodies text) (parseAll text) ∧
      (TellsOfAll (arrowedBodies text) (parseAll text) ↔ KeepsBlocks text) ∧
      ((parseAll text).1.length + (parseAll text).2.length = (arrowedBodies text).length ↔
        KeepsBlocks text) := by
  have read := tellsOfAll_readBodies text
  -- what is read is a sublist of what has an arrow, so their lengths decide
  have same_of_length : (parseAll text).1.length + (parseAll text).2.length =
      (arrowedBodies text).length → readBodies text = arrowedBodies text := by
    intro lengths
    rw [read.length_eq] at lengths
    exact (readBodies_sublist text).eq_of_length lengths
  refine ⟨read, ⟨fun all => ?_, fun keeps => ?_⟩, ⟨fun lengths => ?_, fun keeps => ?_⟩⟩
  · exact readBodies_eq_iff.mp (same_of_length all.length_eq)
  · exact readBodies_eq_iff.mpr keeps ▸ read
  · exact readBodies_eq_iff.mp (same_of_length lengths)
  · rw [read.length_eq, readBodies_eq_iff.mpr keeps]

/-- A block with nothing behind its arrow is lost, and so is a block at the end of a rule
set whose own closing bracket is missing. -/
theorem not_tellsOfAll_lost_blocks :
    ¬TellsOfAll (arrowedBodies "[[\"a\" -->]]") (parseAll "[[\"a\" -->]]") ∧
      ¬TellsOfAll (arrowedBodies "[[\"a\" --> A.b()]") (parseAll "[[\"a\" --> A.b()]") := by
  constructor
  · intro all
    exact absurd all.length_eq (by decide)
  · intro all
    exact absurd all.length_eq (by decide)

end Rule

end RobotRules
