import Mathlib.Algebra.Order.Ring.Nat
import RobotRules.Check.Command
import RobotRules.Proofs.Rule.Accounting

/-! How many arrows a rule text has, and what the command that checks rules takes them for. It
counts the arrows that belong to no rule as blocks that were left out. They are, but for the
arrows outside of the blocks, those beside another arrow in a block, and those of blocks of
which nothing tells. -/

namespace RobotRules

/-! Counting. -/

namespace Text

variable {part left right : Text} {c : Char}

/-- A text does not begin in the front of another one and run over a character that it has
not. -/
theorem prefix_append_cons_iff (apart : c ∉ part) :
    part <+: left ++ c :: right ↔ part <+: left := by
  constructor
  · rintro ⟨tail, equal⟩
    rcases List.append_eq_append_iff.mp equal with ⟨middle, whole, _⟩ | ⟨middle, whole, across⟩
    · exact ⟨middle, whole.symm⟩
    · cases middle with
      | nil => exact ⟨[], by simpa using whole⟩
      | cons d middle =>
          injection across with same
          exact absurd (by simp [whole, same]) apart
  · exact fun front => front.trans (List.prefix_append left _)

theorem countFrom_append_cons (apart : c ∉ part) (nonempty : part ≠ []) {skip : Nat}
    (inside : skip ≤ left.length) :
    countFrom part skip (left ++ c :: right) = countFrom part skip left + count part right := by
  induction left generalizing skip with
  | nil =>
      obtain rfl : skip = 0 := Nat.le_zero.mp inside
      have elsewhere : ¬part.isPrefixOf (c :: right) = true := by
        rw [List.isPrefixOf_iff_prefix, ← List.nil_append (c :: right),
          prefix_append_cons_iff apart]
        exact fun front => nonempty (List.prefix_nil.mp front)
      rw [List.nil_append, countFrom, countFrom, if_neg elsewhere, Nat.zero_add, count]
  | cons first left induction =>
      rw [List.cons_append]
      cases skip with
      | succ skip =>
          rw [countFrom, countFrom]
          exact induction (Nat.le_of_succ_le_succ inside)
      | zero =>
          have same : part.isPrefixOf (first :: (left ++ c :: right)) =
              part.isPrefixOf (first :: left) := by
            rw [Bool.eq_iff_iff, List.isPrefixOf_iff_prefix, List.isPrefixOf_iff_prefix,
              ← List.cons_append, prefix_append_cons_iff apart]
          rw [countFrom, countFrom, same]
          split_ifs with here
          · -- the occurrence ends before the character that divides
            have short := (List.isPrefixOf_iff_prefix.mp here).length_le
            rw [List.length_cons] at short
            rw [induction (Nat.sub_le_of_le_add short), Nat.add_right_comm]
          · exact induction (Nat.zero_le _)

/-- A character that does not occur in a text divides the places where the text does. -/
theorem count_append_cons (apart : c ∉ part) (nonempty : part ≠ []) :
    count part (left ++ c :: right) = count part left + count part right :=
  countFrom_append_cons apart nonempty (Nat.zero_le _)

theorem count_pos_iff {text : Text} (nonempty : part ≠ []) :
    0 < count part text ↔ part <:+: text := by
  unfold count
  induction text with
  | nil => simp [countFrom, nonempty]
  | cons first rest induction =>
      rw [List.infix_cons_iff, ← induction, countFrom, ← List.isPrefixOf_iff_prefix]
      split_ifs with here
      · exact iff_of_true (Nat.succ_pos _) (.inl here)
      · exact ⟨.inr, fun found => found.resolve_left here⟩

end Text

namespace Block

/-- The pieces of a text between brackets, or before the first and behind the last, that are no
bodies of blocks. It is known whether the bracket before the piece opens, and `piece` holds in
reverse what has come since. -/
def straysFrom (isOpen : Bool) (piece : Text) : Text → List Text
  | [] => [piece.reverse]
  | '[' :: rest => piece.reverse :: straysFrom true [] rest
  | ']' :: rest =>
    if isOpen then straysFrom false [] rest else piece.reverse :: straysFrom false [] rest
  | c :: rest => straysFrom isOpen (c :: piece) rest

/-- The pieces of a text that no block holds. -/
def strays (text : Text) : List Text := straysFrom false [] text

example : strays "a [b] c [d [e]" = ["a ", " c ", "d ", ""].map String.toList := by decide

section Strays

variable (isOpen : Bool) (piece rest : Text)

theorem straysFrom_opening :
    straysFrom isOpen piece ('[' :: rest) = piece.reverse :: straysFrom true [] rest := rfl

theorem straysFrom_closing : straysFrom isOpen piece (']' :: rest) =
    if isOpen then straysFrom false [] rest else piece.reverse :: straysFrom false [] rest := rfl

theorem straysFrom_cons {c : Char} (opening : c ≠ '[') (closing : c ≠ ']') :
    straysFrom isOpen piece (c :: rest) = straysFrom isOpen (c :: piece) rest := by
  rw [straysFrom]
  · exact opening
  · exact closing

end Strays

/-- How often some texts have arrows in them. -/
def arrows (texts : List Text) : Nat := (texts.map (Text.count arrow)).sum

theorem arrows_cons (text : Text) (texts : List Text) :
    arrows (text :: texts) = Text.count arrow text + arrows texts := rfl

/-- No arrow runs over a bracket. -/
theorem count_arrow_append_bracket {c : Char} (bracket : c = '[' ∨ c = ']') (left right : Text) :
    Text.count arrow (left ++ c :: right) = Text.count arrow left + Text.count arrow right := by
  refine Text.count_append_cons ?_ (by decide)
  rcases bracket with rfl | rfl <;> decide

/-- Each arrow stands in one body or in one of the other pieces. -/
theorem count_arrow_reverse_append (isOpen : Bool) (piece text : Text) :
    Text.count arrow (piece.reverse ++ text) =
      arrows (bodiesFrom (if isOpen then some piece else none) text) +
        arrows (straysFrom isOpen piece text) := by
  induction text generalizing isOpen piece with
  | nil => simp [bodiesFrom, straysFrom, arrows]
  | cons c rest induction =>
      by_cases opening : c = '['
      · subst opening
        have later := induction true []
        rw [List.reverse_nil, List.nil_append, if_pos rfl] at later
        rw [count_arrow_append_bracket (.inl rfl), bodiesFrom_opening, straysFrom_opening,
          arrows_cons, later]
        omega
      by_cases closing : c = ']'
      · subst closing
        have later := induction false []
        rw [List.reverse_nil, List.nil_append, if_neg (by decide)] at later
        rw [count_arrow_append_bracket (.inr rfl), straysFrom_closing, later]
        cases isOpen with
        | true =>
            rw [if_pos rfl, if_pos rfl, bodiesFrom_closing_some, arrows_cons]
            omega
        | false =>
            rw [if_neg (by decide), if_neg (by decide), bodiesFrom_closing_none, arrows_cons]
            omega
      · have later := induction isOpen (c :: piece)
        rw [List.reverse_cons, List.append_assoc, List.singleton_append] at later
        rw [later, bodiesFrom_cons opening closing, straysFrom_cons _ _ _ opening closing]
        cases isOpen <;> rfl

theorem count_arrow (text : Text) :
    Text.count arrow text = arrows (bodies text) + arrows (strays text) :=
  count_arrow_reverse_append false [] text

end Block

namespace Rule

/-- How many arrows stand outside of the blocks. -/
def strayArrows (text : Text) : Nat := Block.arrows (Block.strays text)

/-- How many arrows stand in a block beside another one. -/
def furtherArrows (text : Text) : Nat :=
  ((arrowedBodies text).map fun body => Text.count arrow body - 1).sum

/-- How many blocks with an arrow are lost. -/
def lostBlocks (text : Text) : Nat := (arrowedBodies text).length - (readBodies text).length

/-- Each arrow of a text tells of a block: it stands in one, without another arrow, and the block
is not lost. -/
structure ArrowsTellBlocks (text : Text) : Prop where
  inside : ∀ stray ∈ Block.strays text, ¬arrow <:+: stray
  single : ∀ body ∈ Block.bodies text, Text.count arrow body ≤ 1
  kept : KeepsBlocks text

theorem arrows_bodies (text : Text) : Block.arrows (Block.bodies text) =
    (arrowedBodies text).length + furtherArrows text := by
  rw [arrowedBodies, furtherArrows, arrowedBodies]
  induction Block.bodies text with
  | nil => rfl
  | cons body bodies induction =>
      have found : 0 < Text.count arrow body ↔ hasArrow body = true :=
        (Text.count_pos_iff (by decide)).trans hasArrow_iff.symm
      rw [Block.arrows_cons, induction]
      cases arrowed : hasArrow body with
      | true =>
          have some := found.mpr arrowed
          rw [List.filter_cons_of_pos arrowed, List.length_cons, List.map_cons, List.sum_cons]
          omega
      | false =>
          have none : Text.count arrow body = 0 := by
            rw [arrowed] at found
            simpa using found
          rw [List.filter_cons_of_neg (by simp [arrowed]), none, Nat.zero_add]

theorem count_arrow_eq (text : Text) : Text.count arrow text =
    (readBodies text).length + (strayArrows text + furtherArrows text + lostBlocks text) := by
  have fewer := (readBodies_sublist text).length_le
  rw [Block.count_arrow, arrows_bodies, strayArrows, lostBlocks]
  omega

theorem strayArrows_eq_zero_iff {text : Text} :
    strayArrows text = 0 ↔ ∀ stray ∈ Block.strays text, ¬arrow <:+: stray := by
  rw [strayArrows, Block.arrows, List.sum_eq_zero_iff_forall_eq_nat, List.forall_mem_map]
  refine forall₂_congr fun stray _ => ?_
  rw [← Text.count_pos_iff (by decide), Nat.not_lt, Nat.le_zero]

theorem furtherArrows_eq_zero_iff {text : Text} :
    furtherArrows text = 0 ↔ ∀ body ∈ Block.bodies text, Text.count arrow body ≤ 1 := by
  rw [furtherArrows, List.sum_eq_zero_iff_forall_eq_nat, List.forall_mem_map]
  constructor
  · intro single body member
    by_cases arrowed : hasArrow body = true
    · exact Nat.sub_eq_zero_iff_le.mp (single body (List.mem_filter.mpr ⟨member, arrowed⟩))
    · rw [hasArrow_iff, ← Text.count_pos_iff (by decide)] at arrowed
      omega
  · intro single body member
    exact Nat.sub_eq_zero_of_le (single body (List.mem_filter.mp member).1)

theorem lostBlocks_eq_zero_iff {text : Text} : lostBlocks text = 0 ↔ KeepsBlocks text := by
  have among := readBodies_sublist text
  rw [← readBodies_eq_iff, lostBlocks, Nat.sub_eq_zero_iff_le]
  exact ⟨fun all => among.eq_of_length_le all, fun same => by rw [same]⟩

theorem severity_of_mem_parseAll {text : Text} {entry : LogEntry}
    (member : entry ∈ (parseAll text).2) : entry.severity = .warning := by
  rw [parseAll, ofBlocks_eq] at member
  rcases List.mem_filterMap.mp member with ⟨result, among, isEntry⟩
  rcases List.mem_map.mp among with ⟨block, _, rfl⟩
  unfold outcome at isEntry
  cases read : parse block.condition block.actions with
  | ok rule =>
      rw [read] at isEntry
      cases isEntry
  | error error =>
      rw [read] at isEntry
      cases isEntry
      rfl

theorem arrowsTellBlocks_iff (text : Text) :
    ArrowsTellBlocks text ↔ strayArrows text + furtherArrows text + lostBlocks text = 0 := by
  rw [Nat.add_eq_zero_iff, Nat.add_eq_zero_iff, strayArrows_eq_zero_iff,
    furtherArrows_eq_zero_iff, lostBlocks_eq_zero_iff]
  exact ⟨fun tell => ⟨⟨tell.inside, tell.single⟩, tell.kept⟩, fun ⟨⟨inside, single⟩, kept⟩ =>
    ⟨inside, single, kept⟩⟩

end Rule

namespace Check

/-- The number of blocks that are said to be left out is the number of warnings, and besides
counts the arrows outside of the blocks, the arrows beside another one in a block, and the lost
blocks. It is right just if each arrow tells of a block. -/
theorem skipped_eq_warnings_add (text : Text) :
    let rules := (Rule.parseAll text).1
    let warnings := (Rule.parseAll text).2
    (∀ entry ∈ warnings, entry.severity = .warning) ∧ 0 ≤ skipped text rules ∧
      skipped text rules = warnings.length + Rule.strayArrows text + Rule.furtherArrows text +
        Rule.lostBlocks text ∧
      (skipped text rules = warnings.length ↔ Rule.ArrowsTellBlocks text) := by
  intro rules warnings
  have tells := Rule.tellsOfAll_readBodies text
  have told : rules.length + warnings.length = (Rule.readBodies text).length := tells.length_eq
  have counted := Rule.count_arrow_eq text
  have sum : skipped text rules = warnings.length + Rule.strayArrows text +
      Rule.furtherArrows text + Rule.lostBlocks text := by
    rw [skipped]
    omega
  refine ⟨fun entry member => Rule.severity_of_mem_parseAll member, by omega, sum, ?_⟩
  rw [sum, Rule.arrowsTellBlocks_iff]
  omega

/-- An arrow that is quoted in a rule is counted as a block that was left out. -/
theorem not_skipped_eq_warnings_quoted :
    let text : Text := "[[\"a\" --> A.b(\"-->\")]]"
    let rules := (Rule.parseAll text).1
    ¬skipped text rules = (Rule.parseAll text).2.length ∧
      parsedLine text rules = "[Rules] Parsed 1 rules (1 skipped)" := by
  decide

end Check

end RobotRules
