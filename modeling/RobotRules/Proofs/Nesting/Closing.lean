import RobotRules.Proofs.Nesting.Closed

/-! The parenthesis that closes another one. From the inside of a parenthesis the
search goes on as long as the depth stays up; it stops behind a closed text. -/

namespace RobotRules.Nesting

/-- The search passes over a text in which the depth stays up. -/
theorem closingFrom?_append {passed : Text} (state : Nesting) (rest : Text)
    (stays : ∀ before after, passed = before ++ after → before ≠ [] →
      (state.through before).depth ≠ 0) :
    closingFrom? state (passed ++ rest) =
      (closingFrom? (state.through passed) rest).map (· + passed.length) := by
  induction passed generalizing state with
  | nil => simp
  | cons c others induction =>
      have up : (state.next c).depth ≠ 0 :=
        stays [c] others rfl (by simp)
      have staysBehind : ∀ before after, others = before ++ after → before ≠ [] →
          ((state.next c).through before).depth ≠ 0 := fun before after equal _ =>
        stays (c :: before) after (by rw [equal]; rfl) (by simp)
      have goesOn : closingFrom? state (c :: (others ++ rest)) =
          (closingFrom? (state.next c) (others ++ rest)).map (· + 1) := by
        simp [closingFrom?, up]
      rw [List.cons_append, goesOn, induction (state.next c) staysBehind,
        through_cons, Option.map_map]
      rfl

/-- Where the search stops: behind a text that ends at the depth at which it
began and in which the depth stays up. -/
theorem exists_of_closingFrom?_eq_some {state : Nesting} {text : Text} {place : Nat}
    (inside : 1 ≤ state.depth) (found : closingFrom? state text = some place) :
    ∃ passed after, text = passed ++ ')' :: after ∧ passed.length = place ∧
      state.through passed = ⟨false, 1⟩ ∧
      ∀ before middle, passed = before ++ middle →
        1 ≤ (state.through before).depth := by
  induction text generalizing state place with
  | nil => simp [closingFrom?] at found
  | cons c rest induction =>
      rw [closingFrom?] at found
      by_cases closes : (!state.quoted && c == ')' && (state.next c).depth == 0) = true
      · have placeZero : place = 0 := by simpa [closes] using found.symm
        simp only [Bool.and_eq_true, Bool.not_eq_true', beq_iff_eq] at closes
        rcases state with ⟨quoted, depth⟩
        rcases closes with ⟨⟨unquoted, parenthesis⟩, ground⟩
        simp only at unquoted
        subst unquoted parenthesis placeZero
        have depthOne : depth = 1 := by
          simp only [next] at ground
          simp at ground
          omega
        subst depthOne
        refine ⟨[], rest, rfl, rfl, rfl, ?_⟩
        intro before middle equal
        have nothing : before = [] := (List.append_eq_nil_iff.mp equal.symm).1
        simp [nothing]
      · rw [if_neg closes] at found
        rcases Option.map_eq_some_iff.mp found with ⟨behind, foundBehind, count⟩
        have insideBehind : 1 ≤ (state.next c).depth := by
          rcases state with ⟨quoted, depth⟩
          simp only [Bool.and_eq_true, Bool.not_eq_true', beq_iff_eq] at closes
          simp only at inside
          unfold next at closes ⊢
          cases quoted <;> simp only at closes ⊢ <;> split_ifs at closes ⊢ <;>
            simp_all <;> omega
        rcases induction insideBehind foundBehind with
          ⟨passed, after, equal, length, top, stays⟩
        refine ⟨c :: passed, after, by rw [equal]; rfl, ?_, top, ?_⟩
        · rw [List.length_cons, length]
          exact count
        · intro before middle split
          rcases before with _ | ⟨d, others⟩
          · exact inside
          · rw [List.cons_append] at split
            injection split with first tail
            subst first
            exact stays others middle tail

theorem closing?_parenthesis (text : Text) :
    closing? ('(' :: text) = (closingFrom? ⟨false, 1⟩ text).map (· + 1) := by
  rfl

theorem raise_outside : outside.raise 1 = ⟨false, 1⟩ := rfl

theorem closingFrom?_of_closed {body : Text} (closed : Closed body) (after : Text) :
    closingFrom? ⟨false, 1⟩ (body ++ ')' :: after) = some body.length := by
  rw [← raise_outside, closingFrom?_append, closed.through_raised]
  · simp [closingFrom?, raise, outside, next]
  · intro before middle equal _
    have bound := closed.neverBelow before middle equal
    rw [through_raise]
    change (outside.through before).depth + 1 ≠ 0
    omega

/-- A parenthesis is closed by the last character exactly if what stands between
them is closed. -/
theorem closesAtEnd_iff {rest : Text} :
    closesAtEnd ('(' :: rest) = true ↔ ∃ body, rest = body ++ [')'] ∧ Closed body := by
  unfold closesAtEnd
  rw [beq_iff_eq, closing?_parenthesis, Option.map_eq_some_iff]
  constructor
  · rintro ⟨place, found, count⟩
    rcases exists_of_closingFrom?_eq_some (by simp) found with
      ⟨body, after, equal, length, top, stays⟩
    have lengths := congrArg List.length equal
    simp only [List.length_append, List.length_cons, Nat.add_sub_cancel] at lengths count
    have nothing : after = [] := List.length_eq_zero_iff.mp (by omega)
    refine ⟨body, by rw [equal, nothing], ?_, ?_⟩
    · apply raise_injective 1
      rw [← through_raise]
      exact top
    · intro before middle split
      -- One parenthesis is open outside the body, so the depth inside is one less.
      have bound := stays before middle split
      rw [← raise_outside, through_raise] at bound
      change 1 ≤ (outside.through before).depth + 1 at bound
      omega
  · rintro ⟨body, equal, closed⟩
    refine ⟨body.length, ?_, ?_⟩
    · rw [equal]
      exact closingFrom?_of_closed closed []
    · simp [equal]

end RobotRules.Nesting
