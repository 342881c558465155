import Mathlib.Data.List.Forall2
import RobotRules.Nesting.Operator
import RobotRules.Proofs.Text

/-! The words of operators are spelled in ASCII. A word is found by its upper
case, which many characters beyond ASCII have too; but none of these has an
upper case that consists of letters of the words. So what reads as a word is
spelled with its own letters. -/

namespace RobotRules

namespace Character

/-- The letters of the words of all operators. -/
def wordLetters : List Char := ['O', 'R', 'A', 'N', 'D']

private theorem toNat_ofNat_mem {code : Nat} (member : Char.ofNat code ∈ wordLetters) :
    code ∈ wordLetters.map Char.toNat := by
  have point : (Char.ofNat code).toNat ∈ wordLetters.map Char.toNat := List.mem_map_of_mem member
  rw [toNat_ofNat] at point
  split_ifs at point
  · exact point
  · exact absurd point (by decide)

private theorem expansions_leave : upperExpansions.toList.all (fun expansion =>
    expansion.2.any fun code => !(wordLetters.map Char.toNat).contains code) = true := by
  decide +kernel

/-- A run of upper cases starts inside ASCII, or has no ASCII in it, or is one of two
single characters. -/
private theorem runs_leave : upperRuns.toList.all (fun run =>
    run.2.1 < 128 || 128 ≤ run.2.2.2 || (run.1 == run.2.1 &&
      !(wordLetters.map Char.toNat).contains run.2.2.2)) = true := by
  decide +kernel

private theorem mapCase_not_letter {code : Nat} (beyond : 128 ≤ code) :
    mapCase upperRuns code ∉ wordLetters.map Char.toNat := by
  have small : ∀ letter ∈ wordLetters.map Char.toNat, letter < 128 := by decide
  intro member
  unfold mapCase at member
  split at member
  · rename_i first last stride target found
    have inTable := Array.mem_of_find?_eq_some found
    have fits := Array.find?_some found
    have row := List.all_eq_true.mp runs_leave _ (Array.mem_toList_iff.mpr inTable)
    simp only [Bool.and_eq_true, decide_eq_true_eq] at fits
    simp only [Bool.or_eq_true, Bool.and_eq_true, decide_eq_true_eq, beq_iff_eq,
      Bool.not_eq_true', List.contains_eq_mem, decide_eq_false_iff_not] at row
    have below := small _ member
    rcases row with (inAscii | beyondAscii) | ⟨single, notLetter⟩
    · omega
    · omega
    · have atFirst : code - first = 0 := by omega
      rw [atFirst, Nat.add_zero] at member
      exact notLetter member
  · have below := small _ member
    omega

/-- The upper case of a character beyond ASCII has something in it that is no
letter of a word. -/
theorem exists_mem_upper_not_letter {c : Char} (beyond : 128 ≤ c.toNat) :
    ∃ big ∈ upper c, big ∉ wordLetters := by
  unfold upper
  rw [if_neg (by omega)]
  split
  · rename_i code expansion found
    have inTable := Array.mem_of_find?_eq_some found
    have row := List.all_eq_true.mp expansions_leave _ (Array.mem_toList_iff.mpr inTable)
    rcases List.any_eq_true.mp row with ⟨other, member, leaves⟩
    refine ⟨Char.ofNat other, List.mem_map_of_mem member, fun letter => ?_⟩
    simp only [Bool.not_eq_true', List.contains_eq_mem, decide_eq_false_iff_not] at leaves
    exact leaves (toNat_ofNat_mem letter)
  · exact ⟨_, List.mem_singleton_self _, fun letter =>
      mapCase_not_letter beyond (toNat_ofNat_mem letter)⟩

end Character

namespace Operator

open Character (wordLetters)

/-- The letters of a word, each in either case. -/
def Spells (word token : Text) : Prop :=
  List.Forall₂ (fun letter c => c = letter ∨ c = letter.toLower) word token

instance (word token : Text) : Decidable (Spells word token) := by
  unfold Spells
  infer_instance

private theorem upper_eq_singleton_iff {letter c : Char} (isLetter : letter ∈ wordLetters)
    (ascii : c.toNat < 128) :
    Character.upper c = [letter] ↔ c = letter ∨ c = letter.toLower := by
  have upperAscii : Character.upper c = [c.toUpper] := by
    simp [Character.upper, ascii]
  have all : wordLetters.all (fun letter =>
      decide ([c.toUpper] = [letter] ↔ c = letter ∨ c = letter.toLower)) = true :=
    Character.ascii_cases (P := fun c => wordLetters.all (fun letter =>
      decide ([c.toUpper] = [letter] ↔ c = letter ∨ c = letter.toLower)) = true)
      (by decide) ascii
  rw [upperAscii]
  exact Text.forall_mem_of_all all letter isLetter

/-- A text whose upper case is a word of letters has nothing beyond ASCII. -/
private theorem ascii_of_upper_eq {word text : Text}
    (letters : ∀ letter ∈ word, letter ∈ wordLetters) (equal : Text.upper text = word) :
    ∀ c ∈ text, c.toNat < 128 := by
  intro c member
  by_contra beyond
  rcases Character.exists_mem_upper_not_letter (Nat.le_of_not_lt beyond) with
    ⟨big, inUpper, notLetter⟩
  apply notLetter
  apply letters
  rw [← equal]
  exact List.mem_flatMap.mpr ⟨c, member, inUpper⟩

/-- What reads as a word is spelled with the letters of the word. -/
theorem upper_eq_iff_spells {word text : Text}
    (letters : ∀ letter ∈ word, letter ∈ wordLetters) :
    Text.upper text = word ↔ Spells word text := by
  constructor
  · intro equal
    have ascii := ascii_of_upper_eq letters equal
    induction text generalizing word with
    | nil =>
        rw [← equal]
        exact .nil
    | cons c rest induction =>
        have asciiFirst := ascii c (by simp)
        have step : Text.upper (c :: rest) = c.toUpper :: Text.upper rest := by
          simp [Text.upper, Character.upper, asciiFirst]
        rw [step] at equal
        subst equal
        refine .cons ?_ ?_
        · apply (upper_eq_singleton_iff (letters _ (by simp)) asciiFirst).mp
          simp [Character.upper, asciiFirst]
        · exact induction (fun letter member => letters letter (by simp [member])) rfl
            fun other member => ascii other (by simp [member])
  · intro spelled
    induction spelled with
    | nil => rfl
    | @cons letter c word rest same _ induction =>
        have isLetter := letters letter (by simp)
        have small : ∀ letter ∈ wordLetters,
            letter.toNat < 128 ∧ letter.toLower.toNat < 128 :=
          Text.forall_mem_of_all (by decide)
        have ascii : c.toNat < 128 := by
          rcases same with same | same
          · exact same ▸ (small letter isLetter).1
          · exact same ▸ (small letter isLetter).2
        have first := (upper_eq_singleton_iff isLetter ascii).mpr same
        have others := induction fun other member => letters other (by simp [member])
        change Character.upper c ++ Text.upper rest = letter :: word
        rw [first, others]
        rfl

/-- A character is one of the letters of the word that is spelled. -/
theorem mem_of_spells {word token : Text} (spelled : Spells word token) :
    ∀ c ∈ token, c ∈ word ∨ c ∈ word.map Char.toLower := by
  induction spelled with
  | nil => simp
  | @cons letter c word rest same _ induction =>
      intro other member
      rcases List.mem_cons.mp member with equal | member
      · rw [equal]
        rcases same with same | same
        · exact .inl (by simp [same])
        · exact .inr (by simp [same])
      · rcases induction other member with inWord | inWord
        · exact .inl (by simp [inWord])
        · exact .inr (List.mem_cons_of_mem _ inWord)

/-- The letters of a word are word characters. -/
theorem isWord_of_spells {word token : Text}
    (letters : ∀ letter ∈ word, letter ∈ wordLetters) (spelled : Spells word token) :
    ∀ c ∈ token, Character.isWord c = true := by
  have each : ∀ letter ∈ wordLetters,
      Character.isWord letter = true ∧ Character.isWord letter.toLower = true :=
    Text.forall_mem_of_all (by decide)
  intro c member
  rcases mem_of_spells spelled c member with inWord | lowered
  · exact (each c (letters c inWord)).1
  · obtain ⟨letter, inWord, rfl⟩ := List.mem_map.mp lowered
    exact (each letter (letters letter inWord)).2

end Operator

end RobotRules
