import RobotRules.Proofs.Operator.Occurrence

/-! The search for operators. It reads a text from left to right; `done` is what
has been read of it and `todo` what has not. An operator that stands between the
two is found and passed over, any other character is passed over by itself. -/

namespace RobotRules.Operator

open Nesting (outside)

variable {operator : Operator} {done todo token after text left right : Text}

/-! The length of an operator at a place. -/

theorem written_of_lengthAt (plain : operator.Plain) {tail : Nat}
    (found : operator.lengthAt done.getLast? todo = tail + 1) :
    ∃ token after, todo = token ++ after ∧ token.length = tail + 1 ∧
      operator.Written done after token := by
  unfold lengthAt at found
  split_ifs at found with isSymbol isWord
  · rcases List.isPrefixOf_iff_prefix.mp isSymbol with ⟨after, equal⟩
    exact ⟨operator.symbol, after, equal.symm, found, .symbol⟩
  · simp only [Bool.and_eq_true, decide_eq_true_eq] at isWord
    rcases isWord with ⟨⟨reads, boundaryBefore⟩, boundaryAfter⟩
    have spelled := (upper_eq_iff_spells plain.letters).mp reads
    refine ⟨todo.take operator.word.length, todo.drop operator.word.length,
      (List.take_append_drop _ _).symm, ?_, ?_⟩
    · rw [← spelled.length_eq, found]
    · refine .word ?_ spelled boundaryBefore boundaryAfter
      intro nothing
      rw [nothing] at found
      simp at found

theorem lengthAt_of_written (plain : operator.Plain)
    (written : operator.Written done after token) :
    operator.lengthAt done.getLast? (token ++ after) = token.length := by
  have nonempty := written.nonempty plain
  cases written with
  | symbol => simp [lengthAt]
  | word hasWord spelled boundaryBefore boundaryAfter =>
      have noSymbol : ¬operator.symbol.isPrefixOf (token ++ after) = true := by
        intro isPrefix
        rcases List.isPrefixOf_iff_prefix.mp isPrefix with ⟨rest, equal⟩
        rcases symbolEqual : operator.symbol with _ | ⟨c, others⟩
        · exact plain.symbolNonempty symbolEqual
        · rcases token with _ | ⟨d, tail⟩
          · exact nonempty rfl
          · rw [symbolEqual] at equal
            injection equal with same _
            have apart := plain.symbolApart c (by simp [symbolEqual])
            rw [same, isWord_of_spells plain.letters spelled d (by simp)] at apart
            exact absurd apart (by simp)
      have length := spelled.length_eq
      have reads := (upper_eq_iff_spells plain.letters).mpr spelled
      unfold lengthAt
      rw [if_neg noSymbol]
      simp [length, reads, boundaryBefore, boundaryAfter]

/-! Steps of the search. -/

/-- What the search finds from a place on. -/
def found (operator : Operator) (done todo : Text) : List Span :=
  operator.occurrencesFrom (outside.through done) done.getLast? done.length 0 todo

theorem occurrences_eq_found (text : Text) :
    operator.occurrences text = operator.found [] text := rfl

@[simp] theorem found_nil (done : Text) : operator.found done [] = [] := rfl

/-- Characters of an operator that was found are only counted. -/
theorem occurrencesFrom_skip (state : Nesting) (before : Option Char)
    (position : Nat) (token after : Text) :
    operator.occurrencesFrom state before position token.length (token ++ after) =
      operator.occurrencesFrom state (token.getLast?.or before)
        (position + token.length) 0 after := by
  induction token generalizing before position with
  | nil => simp
  | cons c rest induction =>
      change operator.occurrencesFrom state (some c) (position + 1) rest.length
        (rest ++ after) = _
      rw [induction, List.getLast?_cons, List.length_cons]
      congr 1
      · cases rest.getLast? <;> simp
      · omega

theorem found_of_stands (plain : operator.Plain)
    (stands : operator.Stands done token after) :
    operator.found done (token ++ after) =
      ⟨done.length, token.length⟩ :: operator.found (done ++ token) after := by
  have length := lengthAt_of_written plain stands.written
  -- An operator is no delimiter, so passing it does not change the nesting.
  have unread : outside.through (done ++ token) = outside.through done := by
    rw [Nesting.through_append]
    exact Nesting.through_of_no_delimiter
      (fun c member => plain.undelimited c (stands.written.uses c member)) _
  have undelimited : ∀ c ∈ token, Nesting.isDelimiter c = false := fun c member =>
    plain.undelimited c (stands.written.uses c member)
  rcases token with _ | ⟨c, tail⟩
  · exact absurd rfl (stands.written.nonempty plain)
  · have atTop : (outside.through done).isTop = true := Nesting.isTop_iff.mpr stands.top
    unfold found
    rw [unread, List.cons_append, occurrencesFrom]
    simp only [atTop, undelimited c (by simp), Bool.not_false, Bool.and_self, if_true]
    rw [List.cons_append, List.length_cons] at length
    rw [length]
    simp only
    rw [occurrencesFrom_skip]
    simp only [List.length_append, List.length_cons, List.getLast?_append,
      List.getLast?_cons]
    congr 2
    · cases tail.getLast? <;> simp
    · omega

theorem found_of_not_stands (plain : operator.Plain) {c : Char} {rest : Text}
    (absent : ∀ token after, c :: rest = token ++ after →
      ¬operator.Stands done token after) :
    operator.found done (c :: rest) = operator.found (done ++ [c]) rest := by
  have step : (outside.through done).next c = outside.through (done ++ [c]) := by
    rw [Nesting.through_append]
    rfl
  have noLength : (if (outside.through done).isTop && !Nesting.isDelimiter c then
      operator.lengthAt done.getLast? (c :: rest) else 0) = 0 := by
    split_ifs with atPlace
    · rw [Bool.and_eq_true] at atPlace
      rcases length : operator.lengthAt done.getLast? (c :: rest) with _ | tail
      · rfl
      · rcases written_of_lengthAt plain length with ⟨token, after, equal, _, written⟩
        exact absurd ⟨Nesting.isTop_iff.mp atPlace.1, written⟩ (absent token after equal)
    · rfl
  unfold found
  rw [occurrencesFrom]
  simp only [noLength, step]
  simp

/-! What is found, and what is left of the text and right of it. -/

/-- No operator begins in the first so many characters of what is to be read. -/
def NoneWithin (operator : Operator) (done todo : Text) (reach : Nat) : Prop :=
  ∀ middle token after, todo = middle ++ token ++ after → middle.length < reach →
    ¬operator.Stands (done ++ middle) token after

theorem found_eq_of_noneWithin (plain : operator.Plain) {passed rest : Text}
    (absent : operator.NoneWithin done (passed ++ rest) passed.length) :
    operator.found done (passed ++ rest) = operator.found (done ++ passed) rest := by
  induction passed generalizing done with
  | nil => simp
  | cons c passed induction =>
      rw [List.cons_append, found_of_not_stands plain]
      · rw [induction]
        · simp
        · intro middle token after equal shorter
          have absentBehind := absent (c :: middle) token after
            (by simp [equal]) (by simp [shorter])
          simpa using absentBehind
      · intro token after equal
        have absentHere := absent [] token after (by simpa using equal) (by simp)
        simpa using absentHere

/-- The first operator that is found. -/
theorem exists_of_found_eq_cons (plain : operator.Plain) {span : Span}
    {others : List Span} (equal : operator.found done todo = span :: others) :
    ∃ middle token after, todo = middle ++ token ++ after ∧
      span = ⟨done.length + middle.length, token.length⟩ ∧
      operator.Stands (done ++ middle) token after ∧
      others = operator.found (done ++ middle ++ token) after ∧
      operator.NoneWithin done todo middle.length := by
  induction todo generalizing done with
  | nil => simp at equal
  | cons c rest induction =>
      by_cases here : ∃ token after, c :: rest = token ++ after ∧
          operator.Stands done token after
      · rcases here with ⟨token, after, split, stands⟩
        rw [split, found_of_stands plain stands] at equal
        injection equal with first tail
        refine ⟨[], token, after, by simpa using split, by simp [← first],
          by simpa using stands, by simp [← tail], ?_⟩
        intro middle token after _ shorter
        exact absurd shorter (by simp)
      · have absent : ∀ token after, c :: rest = token ++ after →
            ¬operator.Stands done token after := fun token after split stands =>
          here ⟨token, after, split, stands⟩
        rw [found_of_not_stands plain absent] at equal
        rcases induction equal with ⟨middle, token, after, split, place, stands, tail, none⟩
        refine ⟨c :: middle, token, after, by simp [split], ?_, by simpa using stands,
          by simpa using tail, ?_⟩
        · rw [place, List.length_append, List.length_cons, List.length_cons]
          simp
          omega
        · intro other token' after' split' shorter
          rcases other with _ | ⟨d, other⟩
          · simpa using absent token' after' (by simpa using split')
          · simp only [List.cons_append] at split'
            injection split' with same tail'
            subst same
            have absentBehind := none other token' after' (by simpa using tail')
              (by simpa using shorter)
            simpa using absentBehind

theorem found_eq_nil_iff (plain : operator.Plain) :
    operator.found done todo = [] ↔ ∀ middle token after,
      todo = middle ++ token ++ after → ¬operator.Stands (done ++ middle) token after := by
  constructor
  · intro nothing middle token after equal stands
    induction middle generalizing done todo with
    | nil =>
        rw [equal, List.nil_append,
          found_of_stands plain (by simpa using stands)] at nothing
        exact absurd nothing (by simp)
    | cons c middle induction =>
        by_cases absent : ∀ token after, todo = token ++ after →
            ¬operator.Stands done token after
        · rw [equal, List.cons_append, List.cons_append] at nothing absent
          rw [found_of_not_stands plain absent] at nothing
          exact induction nothing rfl (by simpa using stands)
        · simp only [not_forall, not_not] at absent
          rcases absent with ⟨token, after, split, standsHere⟩
          rw [split, found_of_stands plain standsHere] at nothing
          exact absurd nothing (by simp)
  · intro absent
    rcases equal : operator.found done todo with _ | ⟨span, others⟩
    · rfl
    · rcases exists_of_found_eq_cons plain equal with
        ⟨middle, token, after, split, _, stands, _⟩
      exact absurd stands (absent middle token after split)

/-- The last operator that is found. -/
theorem exists_of_getLast?_found (plain : operator.Plain) {span : Span}
    (last : (operator.found done todo).getLast? = some span) :
    ∃ middle token after, todo = middle ++ token ++ after ∧
      span = ⟨done.length + middle.length, token.length⟩ ∧
      operator.Stands (done ++ middle) token after ∧
      operator.found (done ++ middle ++ token) after = [] := by
  generalize equal : operator.found done todo = spans at last
  induction spans generalizing done todo with
  | nil => simp at last
  | cons first others induction =>
      rcases exists_of_found_eq_cons plain equal with
        ⟨middle, token, after, split, place, stands, tail, _⟩
      rcases others with _ | ⟨second, others⟩
      · simp only [List.getLast?_singleton, Option.some.injEq] at last
        exact ⟨middle, token, after, split, by rw [← last, place], stands, tail.symm⟩
      · rcases induction tail.symm (by simpa using last) with
          ⟨middle', token', after', split', place', stands', nothing⟩
        refine ⟨middle ++ token ++ middle', token', after', ?_, ?_, ?_, ?_⟩
        · rw [split, split']
          simp
        · rw [place']
          simp
          omega
        · simpa using stands'
        · simpa using nothing

/-- The search passes a place over which no operator runs, whatever it finds
before. -/
theorem exists_found_append (plain : operator.Plain) (done rest : Text) {passed : Text}
    (unused : ∀ c, passed.getLast? = some c → ¬operator.Uses c) :
    ∃ spans, operator.found done (passed ++ rest) =
      spans ++ operator.found (done ++ passed) rest := by
  generalize equal : operator.found done (passed ++ rest) = spans
  induction spans generalizing done passed with
  | nil =>
      have nothing := (found_eq_nil_iff plain).mp equal
      refine ⟨[], ?_⟩
      rw [List.nil_append, eq_comm, found_eq_nil_iff plain]
      intro middle token after split
      have absent := nothing (passed ++ middle) token after (by simp [split])
      simpa using absent
  | cons span others induction =>
      rcases exists_of_found_eq_cons plain equal with
        ⟨middle, token, after, split, _, stands, tail, none⟩
      rcases cases_of_append_eq split with
        ⟨beyond, across, _⟩ | ⟨beyond, within, behind⟩ |
          ⟨front, back, hasFront, _, across, inPassed, _⟩
      · refine ⟨[], ?_⟩
        rw [List.nil_append, ← equal]
        apply found_eq_of_noneWithin plain
        intro other token after split shorter
        exact none other token after split (by simp [across]; omega)
      · have unusedBehind : ∀ c, beyond.getLast? = some c → ¬operator.Uses c := by
          intro c last
          apply unused c
          rw [within, List.getLast?_append, last]
          rfl
        rw [behind] at tail
        rcases induction (done ++ middle ++ token) unusedBehind tail.symm with
          ⟨spans, foundBehind⟩
        refine ⟨span :: spans, ?_⟩
        rw [foundBehind, within]
        simp
      · -- the token would run over the last character that is passed
        rcases List.eq_nil_or_concat front with nothing | ⟨others, c, ends⟩
        · exact absurd nothing hasFront
        · have uses := stands.written.uses c (by simp [across, ends])
          exact absurd uses (unused c (by simp [inPassed, ends]))

/-! The operators of a text. -/

theorem last?_eq_none_iff (plain : operator.Plain) :
    operator.last? text = none ↔ operator.Free text := by
  unfold last?
  rw [List.getLast?_eq_none_iff, occurrences_eq_found, found_eq_nil_iff plain]
  rfl

/-- Behind an operator that stands in a text, the search goes on as in a text of
its own. -/
theorem found_behind_eq_nil_iff (plain : operator.Plain)
    (stands : operator.Stands left token right) :
    operator.found (left ++ token) right = [] ↔ operator.Free right := by
  rw [found_eq_nil_iff plain]
  constructor
  · intro nothing before token' after split standsRight
    refine nothing before token' after split ⟨?_, ?_⟩
    · rw [Nesting.through_append, stands.through_token plain, standsRight.top]
    · apply standsRight.written.append_before plain
      rw [← split]
      exact stands.apart_after plain
  · intro free middle token' after split standsRight
    refine free middle token' after split ⟨?_, standsRight.written.of_before _⟩
    have top := standsRight.top
    rwa [Nesting.through_append, stands.through_token plain] at top

/-- The last operator is one, and none stands behind it. -/
theorem exists_of_last?_eq_some (plain : operator.Plain) {span : Span}
    (last : operator.last? text = some span) :
    ∃ left token right, text = left ++ token ++ right ∧
      span = ⟨left.length, token.length⟩ ∧ operator.Stands left token right ∧
      operator.Free right := by
  unfold last? at last
  rw [occurrences_eq_found] at last
  rcases exists_of_getLast?_found plain last with
    ⟨left, token, right, equal, place, stands, nothing⟩
  rw [List.nil_append] at stands nothing
  exact ⟨left, token, right, equal, by simpa using place, stands,
    (found_behind_eq_nil_iff plain stands).mp nothing⟩

theorem last?_of_stands (plain : operator.Plain) (stands : operator.Stands left token right)
    (unused : ∀ c, left.getLast? = some c → ¬operator.Uses c)
    (free : operator.Free right) :
    operator.last? (left ++ token ++ right) = some ⟨left.length, token.length⟩ := by
  have nothing := (found_behind_eq_nil_iff plain stands).mpr free
  rcases exists_found_append plain [] (token ++ right) unused with ⟨spans, equal⟩
  unfold last?
  rw [occurrences_eq_found, List.append_assoc, equal, List.nil_append,
    found_of_stands plain stands, nothing]
  simp

theorem occurrences_of_free (plain : operator.Plain) (free : operator.Free text) :
    operator.occurrences text = [] := by
  rw [occurrences_eq_found, found_eq_nil_iff plain]
  exact free

/-- An operator that is the only one is found once. -/
theorem occurrences_of_stands (plain : operator.Plain)
    (stands : operator.Stands left token right)
    (unused : ∀ c, left.getLast? = some c → ¬operator.Uses c)
    (freeLeft : operator.Free left) (freeRight : operator.Free right) :
    operator.occurrences (left ++ token ++ right) = [⟨left.length, token.length⟩] := by
  have absent : operator.NoneWithin [] (left ++ (token ++ right)) left.length := by
    intro middle token' after split shorter standsLeft
    rcases cases_of_append_eq split with
      ⟨beyond, across, _⟩ | ⟨beyond, within, behind⟩ |
        ⟨front, back, hasFront, _, across, inLeft, _⟩
    · have lengths := congrArg List.length across
      simp only [List.length_append] at lengths
      omega
    · rw [behind] at standsLeft
      exact freeLeft middle token' beyond within
        ⟨standsLeft.top, standsLeft.written.of_after _⟩
    · rcases List.eq_nil_or_concat front with nothing | ⟨others, c, ends⟩
      · exact hasFront nothing
      · exact unused c (by simp [inLeft, ends])
          (standsLeft.written.uses c (by simp [across, ends]))
  rw [occurrences_eq_found, List.append_assoc, found_eq_of_noneWithin plain absent,
    List.nil_append, found_of_stands plain stands,
    (found_behind_eq_nil_iff plain stands).mpr freeRight]

/-- Where an operator is found only once, it is the only one. -/
theorem exists_of_occurrences_eq_singleton (plain : operator.Plain) {span : Span}
    (single : operator.occurrences text = [span]) :
    ∃ left token right, text = left ++ token ++ right ∧
      span = ⟨left.length, token.length⟩ ∧ operator.Stands left token right ∧
      operator.Free left ∧ operator.Free right := by
  rw [occurrences_eq_found] at single
  rcases exists_of_found_eq_cons plain single with
    ⟨left, token, right, equal, place, stands, nothing, absent⟩
  rw [List.nil_append] at stands nothing
  refine ⟨left, token, right, equal, by simpa using place, stands, ?_,
    (found_behind_eq_nil_iff plain stands).mp nothing.symm⟩
  intro before token' after split standsLeft
  refine absent before token' (after ++ (token ++ right)) ?_ ?_ ⟨?_, ?_⟩
  · simp [equal, split]
  · have positive := List.length_pos_iff.mpr (standsLeft.written.nonempty plain)
    simp only [split, List.length_append]
    omega
  · exact standsLeft.top
  · apply standsLeft.written.append_after plain
    rw [← split]
    exact stands.apart_before plain

end RobotRules.Operator
