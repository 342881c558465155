import RobotRules.Proofs.Expr.Reading
import RobotRules.Proofs.Nesting.Counts
import RobotRules.Proofs.Operator.Search

/-! Cutting a text at its last operator. The search finds an operator exactly if one stands
outside quotes and parentheses, and it finds one behind which there is no other. -/

namespace RobotRules.Operator

open Nesting (Level outside)

variable {operator : Operator} {text : Text}

/-- An operator starts at a place of a text, and takes so many characters: it is outside quotes
and parentheses, and a word that spells it touches no word character on either side. -/
structure StartsAt (operator : Operator) (text : Text) (place length : Nat) : Prop where
  level : Level (text.take place)
  within : place + length ≤ text.length
  written : operator.Written (text.take place) (text.drop (place + length))
    ((text.drop place).take length)

theorem startsAt_append {left token right : Text} :
    operator.StartsAt (left ++ token ++ right) left.length token.length ↔
      operator.Stands left token right := by
  have before : (left ++ token ++ right).take left.length = left := by simp
  have after : (left ++ token ++ right).drop (left.length + token.length) = right := by
    rw [← List.length_append, List.drop_left]
  have middle : ((left ++ token ++ right).drop left.length).take token.length = token := by
    simp
  constructor
  · rintro ⟨level, _, written⟩
    rw [before] at level written
    rw [after, middle] at written
    exact ⟨Nesting.through_eq_outside_iff.mpr level, written⟩
  · rintro ⟨top, written⟩
    refine ⟨?_, by simp, ?_⟩
    · rw [before]
      exact Nesting.through_eq_outside_iff.mp top
    · rwa [before, after, middle]

theorem StartsAt.exists_stands {place length : Nat}
    (starts : operator.StartsAt text place length) :
    ∃ left token right, text = left ++ token ++ right ∧ place = left.length ∧
      length = token.length ∧ operator.Stands left token right := by
  have equal : text = text.take place ++ (text.drop place).take length ++
      text.drop (place + length) := by
    rw [List.append_assoc, ← List.drop_drop, List.take_append_drop, List.take_append_drop]
  have within := starts.within
  refine ⟨_, _, _, equal, ?_, ?_, Nesting.through_eq_outside_iff.mpr starts.level,
    starts.written⟩
  · rw [List.length_take]
    omega
  · rw [List.length_take, List.length_drop]
    omega

theorem free_iff : operator.Free text ↔ ∀ place length, ¬operator.StartsAt text place length := by
  constructor
  · intro free place length starts
    rcases starts.exists_stands with ⟨left, token, right, equal, _, _, stands⟩
    exact free left token right equal stands
  · rintro absent left token right rfl stands
    exact absent _ _ (startsAt_append.mpr stands)

/-! The search never looks for a word beyond the end of the text: what reads as the word is as
long as the word. -/

theorem overrunsFrom_eq_false (plain : operator.Plain) (state : Nesting) (before : Option Char)
    (skip : Nat) (text : Text) : operator.overrunsFrom state before skip text = false := by
  have whole : ∀ text : Text, (decide (text.length < operator.word.length) &&
      decide (Text.upper text = operator.word)) = false := by
    intro text
    by_contra shorter
    simp only [Bool.not_eq_false, Bool.and_eq_true, decide_eq_true_eq] at shorter
    have length := ((upper_eq_iff_spells plain.letters).mp shorter.2).length_eq
    omega
  induction text generalizing state before skip with
  | nil => rfl
  | cons c rest induction =>
      cases skip with
      | succ skip => exact induction state (some c) skip
      | zero =>
          rw [overrunsFrom, Bool.and_assoc, whole (c :: rest), Bool.and_false,
            if_neg Bool.false_ne_true]
          split_ifs
          · cases operator.lengthAt before (c :: rest) <;> exact induction _ _ _
          · exact induction _ _ _

theorem overruns_eq_false (plain : operator.Plain) (text : Text) :
    operator.overruns text = false := overrunsFrom_eq_false plain .outside none 0 text

/-! What is left of the last operator. -/

/-- A search that has not come to an operator yet does not come to one either in what is left
of that operator alone. -/
theorem NoneWithin.of_stands {done middle token right : Text} {reach : Nat}
    (plain : operator.Plain) (stands : operator.Stands (done ++ middle) token right)
    (absent : operator.NoneWithin done (middle ++ (token ++ right)) reach) :
    operator.NoneWithin done middle reach := by
  intro front token' back equal shorter standsFront
  refine absent front token' (back ++ (token ++ right)) (by simp [equal]) shorter
    ⟨standsFront.top, standsFront.written.append_after plain ?_⟩
  have apart := stands.apart_before plain
  rwa [equal, ← List.append_assoc, ← List.append_assoc] at apart

/-- Left of the last operator the search finds what it finds in the whole text before that
operator. -/
theorem found_left_of_last (plain : operator.Plain) {done todo : Text} {spans : List Span}
    {last : Span} (equal : operator.found done todo = spans ++ [last]) :
    ∃ middle token right, todo = middle ++ token ++ right ∧
      last = ⟨done.length + middle.length, token.length⟩ ∧
      operator.Stands (done ++ middle) token right ∧
      operator.found (done ++ middle ++ token) right = [] ∧
      operator.found done middle = spans := by
  induction spans generalizing done todo with
  | nil =>
      rcases exists_of_found_eq_cons plain equal with
        ⟨middle, token, right, split, place, stands, nothing, absent⟩
      refine ⟨middle, token, right, split, place, stands, nothing.symm, ?_⟩
      rw [split, List.append_assoc] at absent
      have none := absent.of_stands plain stands
      rw [← List.append_nil middle] at none ⊢
      rw [found_eq_of_noneWithin plain (by simpa using none), found_nil]
  | cons first spans induction =>
      rcases exists_of_found_eq_cons plain equal with
        ⟨front, token', after, split, place, stands', tail, absent⟩
      rcases induction tail.symm with
        ⟨middle, token, right, split', place', stands, nothing, found⟩
      have around : todo = (front ++ token' ++ middle) ++ (token ++ right) := by
        simp [split, split']
      have standsHere : operator.Stands (done ++ (front ++ token' ++ middle)) token right := by
        simpa using stands
      refine ⟨front ++ token' ++ middle, token, right, by simp [around], ?_, standsHere,
        by simpa using nothing, ?_⟩
      · rw [place']
        simp
        omega
      · rw [around] at absent
        have none := absent.of_stands plain standsHere
        have before : operator.Stands (done ++ front) token' middle := by
          refine ⟨stands'.top, ?_⟩
          rw [split', List.append_assoc] at stands'
          exact stands'.written.of_after _
        rw [List.append_assoc] at none ⊢
        rw [found_eq_of_noneWithin plain none, found_of_stands plain before, found, place]
        simp

/-- The search for a logical operator never runs over the end of the text, and comes to nothing
exactly if none starts anywhere. What it comes to is one, and cuts the text in two: left of it
stand the operators that are found before it, and right of it stands none, also without the white
space around. -/
theorem last?_cuts (isLogical : operator ∈ [disjunction, conjunction]) (text : Text) :
    operator.overruns text = false ∧
    (operator.last? text = none ↔ ∀ place length, ¬operator.StartsAt text place length) ∧
    ∀ span, operator.last? text = some span →
      operator.StartsAt text span.start span.length ∧
      operator.occurrences (around text span).1 ++ [span] = operator.occurrences text ∧
      operator.last? (around text span).2 = none ∧
      operator.last? (Text.trim (around text span).2) = none := by
  have plain : operator.Plain := by
    rcases List.mem_pair.mp isLogical with rfl | rfl
    · exact plain_disjunction
    · exact plain_conjunction
  refine ⟨overruns_eq_false plain text, (last?_eq_none_iff plain).trans free_iff,
    fun span last => ?_⟩
  rcases List.getLast?_eq_some_iff.mp last with ⟨spans, found⟩
  have search : operator.found [] text = spans ++ [span] := found
  rcases found_left_of_last plain search with
    ⟨left, token, right, equal, place, stands, nothing, before⟩
  rw [List.nil_append] at stands nothing
  rw [List.length_nil, Nat.zero_add] at place
  have free := (found_behind_eq_nil_iff plain stands).mp nothing
  rw [found, equal, place, Expr.around_operator]
  refine ⟨startsAt_append.mpr stands, ?_, ?_, ?_⟩
  · rw [occurrences_eq_found, before]
  · exact (last?_eq_none_iff plain).mpr free
  · exact (last?_eq_none_iff plain).mpr ((free_trim_iff plain).mpr free)

/-- Overlapping runs of a symbol, and a word next to it. -/
theorem last?_cuts_overlapping : disjunction.last? "a ||Or||| b" = some ⟨6, 2⟩ ∧
    disjunction.StartsAt "a ||Or||| b" 6 2 ∧
    disjunction.occurrences "a ||Or" = [⟨2, 2⟩, ⟨4, 2⟩] ∧
    disjunction.last? "| b" = none := by
  have found : disjunction.last? "a ||Or||| b" = some ⟨6, 2⟩ := by decide
  have cut := (last?_cuts (by simp : disjunction ∈ [disjunction, conjunction]) _).2.2 _ found
  exact ⟨found, cut.1, by decide, cut.2.2.1⟩

end RobotRules.Operator
