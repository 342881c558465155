import Mathlib.Algebra.Group.Nat.Even
import RobotRules.Proofs.Nesting.Closed

/-! The nesting at a place, counted out. A quote is open behind an odd number of quotes, and
the depth is the number of parentheses that are opened outside quotes, less the number of those
that are closed there. -/

namespace RobotRules.Nesting

/-- The characters outside quotes, behind a place that stands in quotes or does not. -/
def unquotedFrom (quoted : Bool) : Text → Text
  | [] => []
  | c :: rest =>
    if c = '"' then unquotedFrom (!quoted) rest
    else if quoted then unquotedFrom quoted rest
    else c :: unquotedFrom quoted rest

/-- The characters of a text outside its quotes. -/
def unquoted (text : Text) : Text := unquotedFrom false text

example : unquoted "f(\"a)\", b)" = "f(, b)" := by decide

def quotes (text : Text) : Nat := List.count '"' text

/-- How many parentheses a text opens outside its quotes. -/
def openings (text : Text) : Nat := List.count '(' (unquoted text)

/-- How many parentheses a text closes outside its quotes. -/
def closings (text : Text) : Nat := List.count ')' (unquoted text)

theorem quoted_through (state : Nesting) (text : Text) :
    (state.through text).quoted = state.quoted ↔ Even (quotes text) := by
  unfold quotes
  induction text generalizing state with
  | nil => simp
  | cons c rest induction =>
      rw [through_cons]
      by_cases quote : c = '"'
      · subst quote
        have flips : (state.next '"').quoted = !state.quoted := by simp [next]
        rw [List.count_cons_self, Nat.even_add_one, ← induction (state.next '"'), flips,
          Bool.eq_not, not_not]
      · have stays : (state.next c).quoted = state.quoted := by
          unfold next
          split_ifs <;> simp_all
        rw [List.count_cons_of_ne quote, ← induction (state.next c), stays]

theorem depth_through (state : Nesting) (text : Text) :
    (state.through text).depth = state.depth +
      (List.count '(' (unquotedFrom state.quoted text) : Int) -
        List.count ')' (unquotedFrom state.quoted text) := by
  induction text generalizing state with
  | nil => simp [unquotedFrom]
  | cons c rest induction =>
      rcases state with ⟨quoted, depth⟩
      rw [through_cons, induction]
      cases quoted with
      | true =>
          by_cases quote : c = '"'
          · simp [next, unquotedFrom, quote]
          · simp [next, unquotedFrom, quote]
      | false =>
          by_cases quote : c = '"'
          · simp [next, unquotedFrom, quote]
          · by_cases opens : c = '('
            · simp [next, unquotedFrom, opens]
              omega
            · by_cases closes : c = ')'
              · simp [next, unquotedFrom, closes]
                omega
              · simp [next, unquotedFrom, quote, opens, closes]

theorem depth_outside_through (text : Text) :
    (outside.through text).depth = (openings text : Int) - closings text := by
  rw [depth_through, openings, closings, unquoted]
  simp [outside]

/-- The place behind a text stands outside quotes and parentheses: no quote is open, and as
many parentheses are opened as are closed. -/
structure Level (text : Text) : Prop where
  paired : Even (quotes text)
  balanced : openings text = closings text

instance (text : Text) : Decidable (Level text) :=
  decidable_of_iff (Even (quotes text) ∧ openings text = closings text)
    ⟨fun both => ⟨both.1, both.2⟩, fun level => ⟨level.paired, level.balanced⟩⟩

theorem through_eq_outside_iff {text : Text} : outside.through text = outside ↔ Level text := by
  have quoted := quoted_through outside text
  have depth := depth_outside_through text
  constructor
  · intro top
    rw [top] at quoted depth
    have level : (0 : Int) = openings text - closings text := depth
    exact ⟨quoted.mp rfl, by omega⟩
  · rintro ⟨paired, balanced⟩
    have unquoted := quoted.mpr paired
    rw [balanced, Int.sub_self] at depth
    rcases reached : outside.through text with ⟨quoted, height⟩
    rw [reached] at unquoted depth
    simp only at unquoted depth
    rw [unquoted, depth]
    rfl

/-- A closed text, counted out. -/
theorem closed_iff {text : Text} : Closed text ↔ Level text ∧
    ∀ before, before <+: text → closings before ≤ openings before := by
  have height : ∀ before, 0 ≤ (outside.through before).depth ↔
      closings before ≤ openings before := fun before => by
    rw [depth_outside_through]
    omega
  constructor
  · intro closed
    refine ⟨through_eq_outside_iff.mp closed.returns, ?_⟩
    rintro before ⟨after, equal⟩
    exact (height before).mp (closed.neverBelow before after equal.symm)
  · rintro ⟨level, neverBelow⟩
    refine ⟨through_eq_outside_iff.mpr level, fun before after equal => ?_⟩
    exact (height before).mpr (neverBelow before ⟨after, equal.symm⟩)

end RobotRules.Nesting
