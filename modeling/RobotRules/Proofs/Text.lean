import Mathlib.Data.List.Basic
import Mathlib.Data.List.TakeWhile
import RobotRules.Character.Letters
import RobotRules.Text.Basic

/-! Texts: white space at their ends, beginnings, and the first occurrence of a
character. Trimming takes off a blank text at each end, and does not see blank texts
that are put there. -/

namespace RobotRules

namespace Character

/-- The code points of all white space. -/
def blankCodes : List Nat :=
  List.range' 9 5 ++ List.range' 28 5 ++ [0x85, 0xa0, 0x1680] ++ List.range' 0x2000 11 ++
    [0x2028, 0x2029, 0x202f, 0x205f, 0x3000]

theorem mem_blankCodes {c : Char} (blank : isBlank c = true) : c.toNat ∈ blankCodes := by
  simp only [isBlank, Bool.or_eq_true, Bool.and_eq_true, decide_eq_true_eq, beq_iff_eq]
    at blank
  simp only [blankCodes, List.mem_append, List.mem_range'_1, List.mem_cons,
    List.not_mem_nil, or_false]
  omega

theorem toNat_ofNat (code : Nat) :
    (Char.ofNat code).toNat = if code.isValidChar then code else 0 := by
  by_cases valid : code.isValidChar
  · rw [Char.ofNat, dif_pos valid, if_pos valid]
    rfl
  · rw [Char.ofNat, dif_neg valid, if_neg valid]
    rfl

theorem blank_cases {P : Char → Prop} (each : ∀ code ∈ blankCodes, P (Char.ofNat code))
    {c : Char} (blank : isBlank c = true) : P c := by
  have point := each c.toNat (mem_blankCodes blank)
  rwa [Char.ofNat_toNat] at point

/-- What holds of all ASCII characters is seen from each of them. -/
theorem ascii_cases {P : Char → Prop} (each : ∀ code : Fin 128, P (Char.ofNat code))
    {c : Char} (ascii : c.toNat < 128) : P c := by
  have point := each ⟨c.toNat, ascii⟩
  rwa [Char.ofNat_toNat] at point

theorem isWord_of_isBlank {c : Char} (blank : isBlank c = true) : isWord c = false :=
  blank_cases (P := fun c => isWord c = false) (by decide +kernel) blank

theorem isWord_of_isIdentifier {c : Char} (identifier : isIdentifier c = true) :
    isWord c = true := by
  unfold isIdentifier at identifier
  unfold isWord isAlphanumeric
  rw [Bool.or_eq_true] at identifier ⊢
  rcases identifier with alphanumeric | underscore
  · left
    have ascii : c.toNat < 128 := by
      unfold Char.isAlphanum Char.isAlpha Char.isUpper Char.isLower Char.isDigit at alphanumeric
      simp only [Bool.or_eq_true, Bool.and_eq_true, decide_eq_true_eq] at alphanumeric
      simp only [UInt32.le_iff_toNat_le] at alphanumeric
      simp at alphanumeric
      omega
    rw [if_pos ascii, alphanumeric]
  · exact .inr underscore

end Character

namespace Text

/-- What is decided of each character of a text holds of them all. -/
theorem forall_mem_of_all {P : Char → Prop} [DecidablePred P] {text : Text}
    (decided : text.all (fun c => decide (P c)) = true) : ∀ c ∈ text, P c := by
  simpa using decided

@[simp] theorem isBlank_nil : isBlank [] = true := rfl

@[simp] theorem isBlank_append (left right : Text) :
    isBlank (left ++ right) = (isBlank left && isBlank right) := by
  simp [isBlank]

theorem isBlank_reverse (text : Text) : isBlank text.reverse = isBlank text := by
  simp [isBlank]

theorem mem_isBlank {text : Text} (blank : isBlank text = true) {c : Char}
    (member : c ∈ text) : Character.isBlank c = true :=
  List.all_eq_true.mp blank c member

theorem trimStart_append_of_isBlank {before : Text} (blank : isBlank before = true)
    (text : Text) : trimStart (before ++ text) = trimStart text :=
  List.dropWhile_append_of_pos fun _ member => mem_isBlank blank member

theorem trimEnd_append_of_isBlank {after : Text} (blank : isBlank after = true)
    (text : Text) : trimEnd (text ++ after) = trimEnd text := by
  have blankReverse : isBlank after.reverse = true := by
    rw [isBlank_reverse, blank]
  unfold trimEnd
  rw [List.reverse_append, trimStart_append_of_isBlank blankReverse]

/-- What trimming takes off the front is blank. -/
theorem exists_trimStart (text : Text) :
    ∃ before, isBlank before = true ∧ text = before ++ trimStart text := by
  refine ⟨text.takeWhile Character.isBlank, ?_, ?_⟩
  · exact List.all_takeWhile
  · exact List.takeWhile_append_dropWhile.symm

/-- What trimming takes off the back is blank. -/
theorem exists_trimEnd (text : Text) :
    ∃ after, isBlank after = true ∧ text = trimEnd text ++ after := by
  rcases exists_trimStart text.reverse with ⟨after, blank, equal⟩
  refine ⟨after.reverse, ?_, ?_⟩
  · rw [isBlank_reverse, blank]
  · unfold trimEnd
    rw [← List.reverse_append, ← equal, List.reverse_reverse]

/-- A text is what trimming leaves of it, between two blank texts. -/
theorem exists_trim (text : Text) :
    ∃ before after, isBlank before = true ∧ isBlank after = true ∧
      text = before ++ trim text ++ after := by
  rcases exists_trimStart text with ⟨before, blankBefore, start⟩
  rcases exists_trimEnd (trimStart text) with ⟨after, blankAfter, finish⟩
  refine ⟨before, after, blankBefore, blankAfter, ?_⟩
  rw [List.append_assoc]
  exact start.trans (congrArg (before ++ ·) finish)

theorem sublist_trim (text : Text) : (trim text).Sublist text := by
  rcases exists_trim text with ⟨before, after, _, _, equal⟩
  have within : trim text <:+: text := ⟨before, after, equal.symm⟩
  exact within.sublist

theorem length_trim_le (text : Text) : (trim text).length ≤ text.length :=
  (sublist_trim text).length_le

theorem trimStart_eq_nil_iff {text : Text} :
    trimStart text = [] ↔ isBlank text = true := by
  simp [trimStart, isBlank, List.dropWhile_eq_nil_iff]

theorem trim_append_of_isBlank {before after : Text} (blankBefore : isBlank before = true)
    (blankAfter : isBlank after = true) (text : Text) :
    trim (before ++ text ++ after) = trim text := by
  unfold trim
  rw [List.append_assoc, trimStart_append_of_isBlank blankBefore]
  by_cases blank : isBlank text = true
  · have nothing : trimStart text = [] := trimStart_eq_nil_iff.mpr blank
    have nothingAfter : trimStart (text ++ after) = [] :=
      trimStart_eq_nil_iff.mpr (by simp [blank, blankAfter])
    rw [nothing, nothingAfter]
  · have visible : trimStart text ≠ [] := fun equal =>
      blank (trimStart_eq_nil_iff.mp equal)
    have split : trimStart (text ++ after) = trimStart text ++ after := by
      unfold trimStart at visible ⊢
      simp [List.dropWhile_append, visible]
    rw [split, trimEnd_append_of_isBlank blankAfter]

/-- A text with visible characters at both ends stays as it is. -/
theorem trim_eq_self {text : Text}
    (first : ∀ c, text.head? = some c → Character.isBlank c = false)
    (last : ∀ c, text.getLast? = some c → Character.isBlank c = false) :
    trim text = text := by
  have keepStart : ∀ {text : Text},
      (∀ c, text.head? = some c → Character.isBlank c = false) →
      trimStart text = text := by
    intro text first
    cases text with
    | nil => rfl
    | cons c rest => simp [trimStart, first c rfl]
  unfold trim trimEnd
  rw [keepStart first, keepStart (by simpa using last), List.reverse_reverse]

theorem head?_trimStart {text : Text} {c : Char}
    (first : (trimStart text).head? = some c) : Character.isBlank c = false := by
  have stops := List.head?_dropWhile_not Character.isBlank text
  unfold trimStart at first
  rw [first] at stops
  simpa using stops

theorem getLast?_trimEnd {text : Text} {c : Char}
    (last : (trimEnd text).getLast? = some c) : Character.isBlank c = false := by
  unfold trimEnd at last
  rw [List.getLast?_reverse] at last
  exact head?_trimStart last

theorem head?_trim {text : Text} {c : Char} (first : (trim text).head? = some c) :
    Character.isBlank c = false := by
  rcases exists_trimEnd (trimStart text) with ⟨after, _, equal⟩
  have firstOfStart : (trimStart text).head? = some c := by
    rw [equal, List.head?_append]
    change ((trim text).head?).or after.head? = some c
    rw [first]
    rfl
  exact head?_trimStart firstOfStart

/-- A visible first character stays the first one. -/
theorem head?_trim_cons {c : Char} (visible : Character.isBlank c = false) (rest : Text) :
    (trim (c :: rest)).head? = some c := by
  rcases exists_trimEnd (c :: rest) with ⟨after, blank, equal⟩
  have start : trimStart (c :: rest) = c :: rest := by simp [trimStart, visible]
  unfold trim
  rw [start]
  rcases trimmed : trimEnd (c :: rest) with _ | ⟨d, others⟩
  · rw [trimmed, List.nil_append] at equal
    have inBlank : Character.isBlank c = true := mem_isBlank blank (by simp [← equal])
    rw [visible] at inBlank
    exact absurd inBlank (by simp)
  · rw [trimmed] at equal
    injection equal with same
    rw [List.head?_cons, same]

theorem getLast?_trim {text : Text} {c : Char}
    (last : (trim text).getLast? = some c) : Character.isBlank c = false :=
  getLast?_trimEnd last

@[simp] theorem trim_trim (text : Text) : trim (trim text) = trim text :=
  trim_eq_self (fun _ => head?_trim) (fun _ => getLast?_trim)

theorem trim_eq_nil_iff {text : Text} : trim text = [] ↔ isBlank text = true := by
  constructor
  · intro nothing
    rcases exists_trim text with ⟨before, after, blankBefore, blankAfter, equal⟩
    rw [equal, nothing]
    simp [blankBefore, blankAfter]
  · intro blank
    have trimmed := trim_append_of_isBlank blank isBlank_nil []
    rw [List.append_nil, List.append_nil] at trimmed
    exact trimmed

theorem trimEnd_append {right : Text} (visible : ¬isBlank right = true) (left : Text) :
    trimEnd (left ++ right) = left ++ trimEnd right := by
  have visibleReverse : trimStart right.reverse ≠ [] := fun nothing =>
    visible (isBlank_reverse right ▸ trimStart_eq_nil_iff.mp nothing)
  unfold trimEnd
  unfold trimStart at visibleReverse ⊢
  rw [List.reverse_append, List.dropWhile_append]
  simp [visibleReverse]

theorem trimEnd_ne_nil {text : Text} (visible : ¬isBlank text = true) :
    trimEnd text ≠ [] := by
  intro nothing
  rcases exists_trimEnd text with ⟨after, blank, equal⟩
  rw [nothing, List.nil_append] at equal
  exact visible (equal ▸ blank)

/-- Between two texts that are not blank, a text keeps its white space. -/
theorem trim_append_append {left right : Text} (visibleLeft : ¬isBlank left = true)
    (visibleRight : ¬isBlank right = true) (middle : Text) :
    trim (left ++ middle ++ right) = trimStart left ++ middle ++ trimEnd right := by
  rcases exists_trimStart left with ⟨before, blankBefore, start⟩
  rcases exists_trimEnd right with ⟨after, blankAfter, finish⟩
  have around : left ++ middle ++ right =
      before ++ (trimStart left ++ middle ++ trimEnd right) ++ after := by
    conv => lhs; rw [start, finish]
    simp
  rw [around, trim_append_of_isBlank blankBefore blankAfter]
  apply trim_eq_self
  · intro c first
    rw [List.append_assoc, List.head?_append_of_ne_nil] at first
    · exact head?_trimStart first
    · exact fun nothing => visibleLeft (trimStart_eq_nil_iff.mp nothing)
  · intro c last
    rw [List.getLast?_append_of_ne_nil _ (trimEnd_ne_nil visibleRight)] at last
    exact getLast?_trimEnd last

/-! Beginnings. -/

theorem after?_eq_some_iff {start text rest : Text} :
    after? start text = some rest ↔ text = start ++ rest := by
  unfold after?
  dsimp only
  constructor
  · intro found
    split_ifs at found with isPrefix
    rcases List.isPrefixOf_iff_prefix.mp isPrefix with ⟨tail, equal⟩
    rw [← equal, List.drop_left] at found
    rw [← equal, Option.some.inj found]
  · intro equal
    rw [equal, if_pos (List.isPrefixOf_iff_prefix.mpr (List.prefix_append _ _))]
    simp

/-! The first occurrence of a character. -/

theorem takeWhile_append_of_not_mem {c : Char} {front : Text} (absent : c ∉ front)
    (rest : Text) : (front ++ c :: rest).takeWhile (· != c) = front := by
  have passed : ∀ d ∈ front, (d != c) = true := fun d member => by
    simpa using ne_of_mem_of_not_mem member absent
  rw [List.takeWhile_append_of_pos passed]
  simp

theorem dropWhile_append_of_not_mem {c : Char} {front : Text} (absent : c ∉ front)
    (rest : Text) : (front ++ c :: rest).dropWhile (· != c) = c :: rest := by
  have passed : ∀ d ∈ front, (d != c) = true := fun d member => by
    simpa using ne_of_mem_of_not_mem member absent
  rw [List.dropWhile_append_of_pos passed]
  simp

theorem exists_of_dropWhile_eq_cons {c d : Char} {text rest : Text}
    (found : text.dropWhile (· != c) = d :: rest) :
    d = c ∧ text = text.takeWhile (· != c) ++ c :: rest ∧
      c ∉ text.takeWhile (· != c) := by
  have stops : d = c := by
    have first := List.head?_dropWhile_not (· != c) text
    rw [found] at first
    simpa using first
  refine ⟨stops, ?_, ?_⟩
  · rw [← stops, ← found, stops]
    exact List.takeWhile_append_dropWhile.symm
  · intro member
    have passed := List.mem_takeWhile_imp member
    simp at passed

end Text

end RobotRules
