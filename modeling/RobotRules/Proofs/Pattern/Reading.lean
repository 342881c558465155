import RobotRules.Pattern.Basic
import RobotRules.Proofs.Text

/-! How a pattern is read. From left to right, a name in braces is one placeholder,
whatever stands in it, a star outside of all names is a wildcard, and any other
character, a brace without its partner included, stands for itself. -/

namespace RobotRules.Pattern

/-- The pieces of a text that is read as a pattern. A brace opens a placeholder if some
characters other than closing braces, at least one of them, and a closing brace
follow. -/
inductive Reads : (text : Text) → (pattern : Pattern) → Prop
  | nil : Reads [] []
  | placeholder {name rest : Text} {pattern : Pattern} :
      name ≠ [] → '\x7d' ∉ name → Reads rest pattern →
      Reads ('\x7b' :: (name ++ '\x7d' :: rest)) (.placeholder :: pattern)
  | wildcard {rest : Text} {pattern : Pattern} :
      Reads rest pattern → Reads ('*' :: rest) (.wildcard :: pattern)
  | literal {c : Char} {rest : Text} {pattern : Pattern} : c ≠ '*' →
      (∀ name after, name ≠ [] → '\x7d' ∉ name →
        c :: rest ≠ '\x7b' :: (name ++ '\x7d' :: after)) →
      Reads rest pattern → Reads (c :: rest) (.literal c :: pattern)

theorem placeholderLength?_eq_some_iff {text : Text} {length : Nat} :
    placeholderLength? text = some length ↔ ∃ name rest, name ≠ [] ∧ '\x7d' ∉ name ∧
      text = '\x7b' :: (name ++ '\x7d' :: rest) ∧ length = name.length + 2 := by
  constructor
  · intro found
    unfold placeholderLength? at found
    split at found
    · rename_i rest
      dsimp only at found
      split_ifs at found with closes
      simp only [Bool.and_eq_true, Bool.not_eq_true', List.isEmpty_eq_false_iff,
        decide_eq_true_eq] at closes
      rcases behind : rest.dropWhile (· != '\x7d') with _ | ⟨d, after⟩
      · have whole : rest.takeWhile (· != '\x7d') = rest := by
          have cut := List.takeWhile_append_dropWhile (p := (· != '\x7d')) (l := rest)
          rwa [behind, List.append_nil] at cut
        rw [whole] at closes
        omega
      · rcases Text.exists_of_dropWhile_eq_cons behind with ⟨_, cut, absent⟩
        exact ⟨rest.takeWhile (· != '\x7d'), after, closes.1, absent, by rw [← cut],
          (Option.some.inj found).symm⟩
    · cases found
  · rintro ⟨name, rest, nonempty, absent, equal, isLength⟩
    rw [equal, isLength]
    simp [placeholderLength?, Text.takeWhile_append_of_not_mem absent, nonempty]

theorem ofTextFrom_append (front rest : Text) :
    ofTextFrom front.length (front ++ rest) = ofTextFrom 0 rest := by
  induction front with
  | nil => rfl
  | cons c front induction => exact induction

/-! The equations of reading, one for each kind of piece. -/

theorem ofTextFrom_placeholder {name : Text} (nonempty : name ≠ []) (absent : '\x7d' ∉ name)
    (rest : Text) : ofTextFrom 0 ('\x7b' :: (name ++ '\x7d' :: rest)) =
      .placeholder :: ofTextFrom 0 rest := by
  have found : placeholderLength? ('\x7b' :: (name ++ '\x7d' :: rest)) =
      some (name.length + 2) :=
    placeholderLength?_eq_some_iff.mpr ⟨name, rest, nonempty, absent, rfl, rfl⟩
  have behind := ofTextFrom_append (name ++ ['\x7d']) rest
  simp only [List.append_assoc, List.singleton_append, List.length_append,
    List.length_singleton] at behind
  rw [ofTextFrom, found]
  exact congrArg _ behind

theorem ofTextFrom_single {c : Char} {rest : Text}
    (none : ∀ name after, name ≠ [] → '\x7d' ∉ name →
      c :: rest ≠ '\x7b' :: (name ++ '\x7d' :: after)) :
    ofTextFrom 0 (c :: rest) =
      (if c = '*' then .wildcard else .literal c) :: ofTextFrom 0 rest := by
  have missing : placeholderLength? (c :: rest) = Option.none := by
    by_contra found
    rcases Option.ne_none_iff_exists'.mp found with ⟨length, found⟩
    rcases placeholderLength?_eq_some_iff.mp found with
      ⟨name, after, nonempty, absent, equal, _⟩
    exact none name after nonempty absent equal
  rw [ofTextFrom, missing]

theorem ofTextFrom_of_reads {text : Text} {pattern : Pattern} (reads : Reads text pattern) :
    ofTextFrom 0 text = pattern := by
  induction reads with
  | nil => rfl
  | placeholder nonempty absent _ induction =>
      rw [ofTextFrom_placeholder nonempty absent, induction]
  | wildcard _ induction =>
      rw [ofTextFrom_single (by simp), induction, if_pos rfl]
  | literal other none _ induction =>
      rw [ofTextFrom_single none, induction, if_neg other]

theorem reads_ofTextFrom (text : Text) : Reads text (ofTextFrom 0 text) := by
  -- A placeholder is passed in one step, so the induction is on the length.
  induction size : text.length using Nat.strong_induction_on generalizing text with
  | _ size induction =>
      have rest_reads : ∀ rest : Text, rest.length < text.length →
          Reads rest (ofTextFrom 0 rest) := fun rest shorter =>
        induction rest.length (size ▸ shorter) rest rfl
      rcases text with _ | ⟨c, rest⟩
      · exact .nil
      by_cases opens : ∃ name after, name ≠ [] ∧ '\x7d' ∉ name ∧
          c :: rest = '\x7b' :: (name ++ '\x7d' :: after)
      · rcases opens with ⟨name, after, nonempty, absent, equal⟩
        rw [equal, ofTextFrom_placeholder nonempty absent]
        refine .placeholder nonempty absent (rest_reads after ?_)
        simp only [equal, List.length_cons, List.length_append]
        omega
      · have none : ∀ name after, name ≠ [] → '\x7d' ∉ name →
            c :: rest ≠ '\x7b' :: (name ++ '\x7d' :: after) :=
          fun name after nonempty absent equal =>
            opens ⟨name, after, nonempty, absent, equal⟩
        rw [ofTextFrom_single none]
        split_ifs with star
        · exact star ▸ .wildcard (rest_reads rest (by simp))
        · exact .literal star none (rest_reads rest (by simp))

/-- A text is read as exactly one pattern. -/
theorem reads_iff {text : Text} {pattern : Pattern} :
    Reads text pattern ↔ pattern = ofTextFrom 0 text :=
  ⟨fun reads => (ofTextFrom_of_reads reads).symm, fun equal => equal ▸ reads_ofTextFrom text⟩

end RobotRules.Pattern
