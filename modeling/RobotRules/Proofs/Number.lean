import Mathlib.Algebra.Order.Ring.Nat
import Mathlib.Data.List.Induction
import Mathlib.Tactic.Common
import RobotRules.Number.Integer

/-! Integers as text. An integer that is short enough to be written is read back, and
no other integer is ever read. -/

namespace RobotRules.Number

theorem isWritable_iff {number : Int} :
    isWritable number = true ↔ number.natAbs < 10 ^ digitLimit := by
  unfold isWritable writeNat
  rw [decide_eq_true_iff, Nat.length_toDigits_le_iff (by decide) (by decide)]

/-! Reading what was written. -/

theorem isDigit_of_mem_writeNat {number : Nat} {c : Char} (member : c ∈ writeNat number) :
    c.isDigit = true :=
  Nat.isDigit_of_mem_toDigits (by decide) (by decide) member

theorem mem_writeInteger {number : Int} {c : Char} (member : c ∈ writeInteger number) :
    c = '-' ∨ c.isDigit = true := by
  cases number with
  | ofNat number => exact .inr (isDigit_of_mem_writeNat member)
  | negSucc number =>
      rcases List.mem_cons.mp member with minus | inDigits
      · exact .inl minus
      · exact .inr (isDigit_of_mem_writeNat inDigits)

theorem bounds_of_isDigit {c : Char} (digit : c.isDigit = true) :
    48 ≤ c.toNat ∧ c.toNat ≤ 57 :=
  Char.isDigit_iff_toNat.mp digit

theorem digit?_of_isDigit {c : Char} (digit : c.isDigit = true) :
    Character.digit? c = some (c.toNat - 48) := by
  have ascii : c.toNat < 128 := Nat.lt_of_le_of_lt (bounds_of_isDigit digit).2 (by decide)
  unfold Character.digit?
  rw [if_pos ascii, if_pos digit]
  rfl

theorem isPadding_of_isDigit {c : Char} (digit : c.isDigit = true) : isPadding c = false := by
  have bounds := bounds_of_isDigit digit
  by_contra padding
  simp only [isPadding, Character.isBlank, Bool.not_eq_false, Bool.and_eq_true,
    Bool.or_eq_true, decide_eq_true_eq, beq_iff_eq] at padding
  omega

theorem unpad_of_not_padding {text : Text} (visible : ∀ c ∈ text, isPadding c = false) :
    unpad text = text := by
  have keep : ∀ {text : Text}, (∀ c ∈ text, isPadding c = false) →
      text.dropWhile isPadding = text := by
    intro text visible
    cases text with
    | nil => rfl
    | cons c rest => simp [visible c (by simp)]
  unfold unpad
  rw [keep visible, keep (by simpa using visible), List.reverse_reverse]

theorem splitOn_of_not_mem {separator : Char} {text : Text} (absent : separator ∉ text) :
    Text.splitOn separator text = [text] := by
  induction text with
  | nil => rfl
  | cons c rest induction =>
      simp only [List.mem_cons, not_or] at absent
      rw [Text.splitOn, induction absent.2]
      simp [Ne.symm absent.1]

theorem mapM_digit? {text : Text} (digits : ∀ c ∈ text, c.isDigit = true) :
    text.mapM Character.digit? = some (text.map (·.toNat - 48)) := by
  induction text with
  | nil => rfl
  | cons c rest induction =>
      rw [List.mapM_cons, digit?_of_isDigit (digits c (by simp)),
        induction fun d member => digits d (by simp [member])]
      rfl

theorem readDigits?_writeNat (number : Nat) :
    readDigits? (writeNat number) =
      some ((writeNat number).map (·.toNat - 48)) := by
  have noUnderscore : '_' ∉ writeNat number := fun member =>
    absurd (isDigit_of_mem_writeNat member) (by decide)
  have nonempty : writeNat number ≠ [] := Nat.toDigits_ne_nil
  unfold readDigits?
  rw [splitOn_of_not_mem noUnderscore]
  simp [nonempty, mapM_digit? fun c member => isDigit_of_mem_writeNat member]

theorem ofDigits_writeNat (number : Nat) :
    ofDigits ((writeNat number).map (·.toNat - 48)) = number := by
  unfold ofDigits
  rw [List.foldl_map]
  exact Nat.ofDigitChars_ten_toDigits

theorem lt_pow_length_writeNat (number : Nat) : number < 10 ^ (writeNat number).length :=
  (Nat.length_toDigits_le_iff (by decide) (List.length_pos_iff.mpr Nat.toDigits_ne_nil)).mp
    (Nat.le_refl _)

/-- No zeros are written in front. -/
theorem pow_length_writeNat_le {number : Nat} (nonzero : number ≠ 0) :
    10 ^ ((writeNat number).length - 1) ≤ number := by
  have nonempty : 0 < (writeNat number).length := List.length_pos_iff.mpr Nat.toDigits_ne_nil
  by_cases single : (writeNat number).length = 1
  · rw [single]
    exact Nat.pos_of_ne_zero nonzero
  · by_contra small
    have short := (Nat.length_toDigits_le_iff (by decide) (by omega)).mpr (Nat.lt_of_not_le small)
    unfold writeNat at short nonempty
    omega

theorem splitSign_writeNat (number : Nat) :
    splitSign (writeNat number) = (false, writeNat number) := by
  have first : ∀ c ∈ writeNat number, c.isDigit = true := fun c member =>
    isDigit_of_mem_writeNat member
  unfold splitSign
  split
  · rename_i rest equal
    exact absurd (first '-' (by simp [equal])) (by decide)
  · rename_i rest equal
    exact absurd (first '+' (by simp [equal])) (by decide)
  · rfl

theorem unpad_writeInteger (number : Int) :
    unpad (writeInteger number) = writeInteger number := by
  refine unpad_of_not_padding fun c member => ?_
  rcases mem_writeInteger member with minus | digit
  · exact minus ▸ rfl
  · exact isPadding_of_isDigit digit

theorem readInteger?_writeInteger {number : Int} (writable : isWritable number = true) :
    readInteger? (writeInteger number) = some number := by
  unfold isWritable at writable
  rw [decide_eq_true_iff] at writable
  unfold readInteger?
  rw [unpad_writeInteger]
  cases number with
  | ofNat number =>
      have short : ¬digitLimit < (writeNat number).length := by simpa using writable
      rw [writeInteger, splitSign_writeNat]
      simp [readDigits?_writeNat, short, ofDigits_writeNat]
  | negSucc number =>
      have short : ¬digitLimit < (writeNat (number + 1)).length := by simpa using writable
      rw [writeInteger]
      simp [splitSign, readDigits?_writeNat, short, ofDigits_writeNat, Int.negSucc_eq]

/-! What is read can be written. -/

theorem digit?_lt {c : Char} {digit : Nat} (found : Character.digit? c = some digit) :
    digit < 10 := by
  unfold Character.digit? at found
  split_ifs at found with ascii isDigit
  · have bounds := bounds_of_isDigit isDigit
    have value := Option.some.inj found
    change c.toNat - 48 = digit at value
    omega
  · split at found
    · simp at found
    · rename_i index _
      dsimp only at found
      split_ifs at found with small
      exact Option.some.inj found ▸ small

theorem exists_of_mem_mapM {α β : Type} {f : α → Option β} {inputs : List α}
    {outputs : List β} (all : inputs.mapM f = some outputs) {output : β}
    (member : output ∈ outputs) : ∃ input ∈ inputs, f input = some output := by
  induction inputs generalizing outputs with
  | nil =>
      rw [← Option.some.inj all] at member
      simp at member
  | cons input others induction =>
      rw [List.mapM_cons] at all
      rcases Option.bind_eq_some_iff.mp all with ⟨first, firstFound, all⟩
      rcases Option.bind_eq_some_iff.mp all with ⟨rest, restFound, all⟩
      rw [← Option.some.inj all] at member
      rcases List.mem_cons.mp member with same | inRest
      · exact ⟨input, by simp, same ▸ firstFound⟩
      · rcases induction restFound inRest with ⟨other, inOthers, found⟩
        exact ⟨other, List.mem_cons_of_mem _ inOthers, found⟩

theorem digits_lt {text : Text} {digits : List Nat} (found : readDigits? text = some digits) :
    ∀ digit ∈ digits, digit < 10 := by
  unfold readDigits? at found
  rcases Option.bind_eq_some_iff.mp found with ⟨groups, groupsFound, found⟩
  intro digit member
  rw [← Option.some.inj found] at member
  rcases List.mem_flatten.mp member with ⟨group, inGroups, inGroup⟩
  rcases exists_of_mem_mapM groupsFound inGroups with ⟨part, _, groupFound⟩
  split_ifs at groupFound
  rcases exists_of_mem_mapM groupFound inGroup with ⟨c, _, digitFound⟩
  exact digit?_lt digitFound

theorem ofDigits_lt {digits : List Nat} (small : ∀ digit ∈ digits, digit < 10) :
    ofDigits digits < 10 ^ digits.length := by
  induction digits using List.reverseRecOn with
  | nil => simp [ofDigits]
  | append_singleton digits digit induction =>
      have last := small digit (by simp)
      have others := induction fun other member => small other (by simp [member])
      unfold ofDigits at others ⊢
      rw [List.foldl_append, List.length_append, List.length_singleton, Nat.pow_succ]
      simp only [List.foldl_cons, List.foldl_nil]
      omega

theorem isWritable_of_readInteger? {text : Text} {number : Int}
    (found : readInteger? text = some number) : isWritable number = true := by
  unfold readInteger? at found
  rcases Option.bind_eq_some_iff.mp found with ⟨digits, digitsFound, found⟩
  have bound := ofDigits_lt (digits_lt digitsFound)
  rw [isWritable_iff]
  split_ifs at found with long negative
  · have short : 10 ^ digits.length ≤ 10 ^ digitLimit :=
      Nat.pow_le_pow_right (by decide) (by omega)
    rw [← Option.some.inj found, Int.natAbs_neg, Int.natAbs_natCast]
    exact Nat.lt_of_lt_of_le bound short
  · have short : 10 ^ digits.length ≤ 10 ^ digitLimit :=
      Nat.pow_le_pow_right (by decide) (by omega)
    rw [← Option.some.inj found, Int.natAbs_natCast]
    exact Nat.lt_of_lt_of_le bound short

end RobotRules.Number
