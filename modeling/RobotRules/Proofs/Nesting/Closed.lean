import Mathlib.Tactic.Common
import RobotRules.Nesting.Basic

/-! Closed texts. Behind a closed text the nesting is what it was in front of
it, and inside it no parenthesis is closed that was opened in front of it. So a
closed text can be put anywhere without a change to what stands around it. -/

namespace RobotRules.Nesting

theorem isTop_iff {state : Nesting} : state.isTop = true ↔ state = outside := by
  rcases state with ⟨quoted, depth⟩
  cases quoted <;> simp [isTop, outside]

theorem next_of_not_delimiter {c : Char} (plain : isDelimiter c = false)
    (state : Nesting) : state.next c = state := by
  simp only [isDelimiter, Bool.or_eq_false_iff, beq_eq_false_iff_ne] at plain
  rcases state with ⟨quoted, depth⟩
  cases quoted <;> simp [next, plain.1.1, plain.1.2, plain.2]

theorem through_of_no_delimiter {text : Text}
    (plain : ∀ c ∈ text, isDelimiter c = false) (state : Nesting) :
    state.through text = state := by
  induction text with
  | nil => rfl
  | cons c rest induction =>
      rw [through_cons, next_of_not_delimiter (plain c (by simp))]
      exact induction fun other member => plain other (by simp [member])

/-- Between quotes nothing counts. -/
theorem through_of_quoted {text : Text} (unquoted : '"' ∉ text) (depth : Int) :
    through ⟨true, depth⟩ text = ⟨true, depth⟩ := by
  induction text with
  | nil => rfl
  | cons c rest induction =>
      simp only [List.mem_cons, not_or] at unquoted
      have stays : next ⟨true, depth⟩ c = ⟨true, depth⟩ := by
        simp [next, Ne.symm unquoted.1]
      rw [through_cons, stays]
      exact induction unquoted.2

/-! Parentheses around a place only raise its depth. -/

/-- A place inside so many more parentheses. -/
def raise (height : Int) (state : Nesting) : Nesting :=
  ⟨state.quoted, state.depth + height⟩

theorem next_raise (height : Int) (state : Nesting) (c : Char) :
    (state.raise height).next c = (state.next c).raise height := by
  rcases state with ⟨quoted, depth⟩
  unfold next raise
  cases quoted <;> simp only <;> split_ifs <;> simp <;> omega

theorem through_raise (height : Int) (state : Nesting) (text : Text) :
    (state.raise height).through text = (state.through text).raise height := by
  induction text generalizing state with
  | nil => rfl
  | cons c rest induction =>
      rw [through_cons, next_raise, induction, through_cons]

theorem raise_injective (height : Int) : Function.Injective (raise height) := by
  rintro ⟨quoted, depth⟩ ⟨quoted', depth'⟩ equal
  simp only [raise, Nesting.mk.injEq] at equal
  simp only [Nesting.mk.injEq]
  exact ⟨equal.1, by omega⟩

/-! Closed texts. -/

/-- A text with an even number of quotes, whose parentheses outside quotes are
balanced and never close more than was opened. -/
structure Closed (text : Text) : Prop where
  returns : outside.through text = outside
  neverBelow : ∀ before after, text = before ++ after →
    0 ≤ (outside.through before).depth

/-- Wherever it starts, a reading comes out of a closed text as it went in. -/
theorem Closed.through_raised {text : Text} (closed : Closed text) (height : Int) :
    (outside.raise height).through text = outside.raise height := by
  rw [through_raise, closed.returns]

theorem Closed.nil : Closed [] where
  returns := rfl
  neverBelow before after equal := by
    have nothing : before = [] := (List.append_eq_nil_iff.mp equal.symm).1
    simp [nothing, outside]

theorem Closed.append {left right : Text} (closedLeft : Closed left)
    (closedRight : Closed right) : Closed (left ++ right) where
  returns := by rw [through_append, closedLeft.returns, closedRight.returns]
  neverBelow before after equal := by
    rcases List.append_eq_append_iff.mp equal with
      ⟨middle, beyondLeft, inRight⟩ | ⟨middle, inLeft, _⟩
    · rw [beyondLeft, through_append, closedLeft.returns]
      exact closedRight.neverBelow middle after inRight
    · exact closedLeft.neverBelow before middle inLeft

theorem Closed.of_no_delimiter {text : Text}
    (plain : ∀ c ∈ text, isDelimiter c = false) : Closed text where
  returns := through_of_no_delimiter plain outside
  neverBelow before after equal := by
    have plainBefore : ∀ c ∈ before, isDelimiter c = false := fun c member =>
      plain c (by simp [equal, member])
    rw [through_of_no_delimiter plainBefore]
    simp [outside]

/-- The two parts of a closed text at a place that is at the top. -/
theorem Closed.split {left right : Text} (closed : Closed (left ++ right))
    (top : outside.through left = outside) : Closed left ∧ Closed right := by
  constructor
  · exact ⟨top, fun before after equal =>
      closed.neverBelow before (after ++ right) (by rw [equal, List.append_assoc])⟩
  · constructor
    · have whole := closed.returns
      rwa [through_append, top] at whole
    · intro before after equal
      have bound := closed.neverBelow (left ++ before) after
        (by rw [equal, List.append_assoc])
      rwa [through_append, top] at bound

/-! Texts in quotes and in parentheses have no place at the top inside them. -/

/-- No place strictly inside the text is at the top. -/
def Enclosed (text : Text) : Prop :=
  ∀ before after, text = before ++ after → before ≠ [] → after ≠ [] →
    outside.through before ≠ outside

/-- Where a text is cut between its first and its last character. -/
theorem exists_cut_inside {before after body : Text} {first last : Char}
    (equal : first :: body ++ [last] = before ++ after) (nonempty : before ≠ [])
    (proper : after ≠ []) :
    ∃ rest middle, before = first :: rest ∧ body = rest ++ middle := by
  rcases before with _ | ⟨c, rest⟩
  · exact absurd rfl nonempty
  · rw [List.cons_append, List.cons_append] at equal
    injection equal with atFront others
    subst atFront
    refine ⟨rest, ?_⟩
    rcases List.append_eq_append_iff.mp others with
      ⟨middle, beyond, atBack⟩ | ⟨middle, within, _⟩
    · have lengths := congrArg List.length atBack
      have positive := List.length_pos_iff.mpr proper
      simp only [List.length_cons, List.length_nil, List.length_append] at lengths
      have nothing : middle = [] := List.length_eq_zero_iff.mp (by omega)
      exact ⟨[], rfl, by simpa [nothing] using beyond.symm⟩
    · exact ⟨middle, rfl, within⟩

theorem through_quote {value : Text} (unquoted : '"' ∉ value) :
    outside.through ('"' :: value) = ⟨true, 0⟩ := by
  rw [through_cons]
  exact through_of_quoted unquoted 0

theorem enclosed_quotes {value : Text} (unquoted : '"' ∉ value) :
    Enclosed ('"' :: value ++ ['"']) := by
  intro before after equal nonempty proper
  rcases exists_cut_inside equal nonempty proper with ⟨rest, middle, start, others⟩
  rw [start, through_quote fun member => unquoted (by simp [others, member])]
  simp [outside]

theorem through_parenthesis (text : Text) :
    outside.through ('(' :: text) = (outside.through text).raise 1 := by
  rw [← through_raise]
  rfl

theorem enclosed_parentheses {body : Text} (closed : Closed body) :
    Enclosed ('(' :: body ++ [')']) := by
  intro before after equal nonempty proper top
  rcases exists_cut_inside equal nonempty proper with ⟨rest, middle, start, others⟩
  have bound := closed.neverBelow rest middle others
  have depths := congrArg depth top
  rw [start, through_parenthesis] at depths
  change (outside.through rest).depth + 1 = 0 at depths
  omega

/-- What is enclosed is closed if the depth stays up inside. -/
theorem Closed.of_inside {body : Text} {first last : Char}
    (returns : outside.through (first :: body ++ [last]) = outside)
    (inside : ∀ rest middle, body = rest ++ middle →
      0 ≤ (outside.through (first :: rest)).depth) :
    Closed (first :: body ++ [last]) := by
  refine ⟨returns, fun before after equal => ?_⟩
  by_cases empty : before = []
  · simp [empty, outside]
  · by_cases whole : after = []
    · rw [whole, List.append_nil] at equal
      rw [← equal, returns]
      simp [outside]
    · rcases exists_cut_inside equal empty whole with ⟨rest, middle, start, others⟩
      rw [start]
      exact inside rest middle others

theorem closed_quotes {value : Text} (unquoted : '"' ∉ value) :
    Closed ('"' :: value ++ ['"']) := by
  apply Closed.of_inside
  · rw [through_append, through_quote unquoted]
    rfl
  · intro rest middle others
    have place := through_quote fun member : '"' ∈ rest => unquoted (by simp [others, member])
    exact Int.le_of_eq (congrArg depth place).symm

theorem closed_parentheses {body : Text} (closed : Closed body) :
    Closed ('(' :: body ++ [')']) := by
  apply Closed.of_inside
  · rw [through_append, through_parenthesis, closed.returns]
    rfl
  · intro rest middle others
    have bound := closed.neverBelow rest middle others
    rw [through_parenthesis]
    change 0 ≤ (outside.through rest).depth + 1
    omega

end RobotRules.Nesting
