import Mathlib.Tactic.Common
import RobotRules.Language

/-! The script of a text is decided by how many letters it has, and how many of them belong to
each script. Where Hangul and ideographs are equally frequent, the order of the letters decides
too, and only there. -/

namespace RobotRules.Language

/-- Whether a character lies in the ranges of a script. -/
def Script.covers : Script → Char → Bool
  | .korean, c => (0xac00 ≤ c.toNat && c.toNat ≤ 0xd7af) ||
      (0x1100 ≤ c.toNat && c.toNat ≤ 0x11ff) || (0x3130 ≤ c.toNat && c.toNat ≤ 0x318f)
  | .japanese, c => 0x3040 ≤ c.toNat && c.toNat ≤ 0x30ff
  | .chinese, c => (0x4e00 ≤ c.toNat && c.toNat ≤ 0x9fff) ||
      (0x3400 ≤ c.toNat && c.toNat ≤ 0x4dbf)

theorem Script.ofChar?_eq_some_iff {c : Char} {script : Script} :
    Script.ofChar? c = some script ↔ script.covers c = true := by
  unfold Script.ofChar?
  dsimp only
  cases script <;> simp only [Script.covers] <;> split_ifs <;>
    simp_all <;> omega

/-- Whether a character is a letter of a script. -/
def Script.includes (script : Script) (c : Char) : Bool :=
  Character.isLetter c && script.covers c

/-- The number of letters of a text that belong to a script. -/
def lettersIn (script : Script) (text : Text) : Nat := text.countP script.includes

/-- Whether Hangul comes first among the letters that are Hangul or ideographs. -/
def hangulFirst (text : Text) : Bool :=
  (text.find? fun c => Script.korean.includes c || Script.chinese.includes c).any
    Script.korean.includes

theorem count_scripts (script : Script) (text : Text) :
    (scripts text).count script = lettersIn script text := by
  unfold scripts lettersIn
  rw [List.count_filterMap, List.countP_filter]
  congr 1
  funext c
  rw [Script.includes, Bool.and_comm, Bool.eq_iff_iff, Bool.and_eq_true, Bool.and_eq_true,
    beq_iff_eq, Script.ofChar?_eq_some_iff]

theorem mem_scripts_iff {script : Script} {text : Text} :
    script ∈ scripts text ↔ 0 < lettersIn script text := by
  rw [← count_scripts, List.count_pos_iff]

theorem scripts_cons (c : Char) (rest : Text) : scripts (c :: rest) =
    (if Character.isLetter c then (Script.ofChar? c).toList else []) ++ scripts rest := by
  unfold scripts
  split_ifs with letter
  · rw [List.filter_cons_of_pos letter, List.filterMap_cons]
    cases Script.ofChar? c <;> rfl
  · rw [List.filter_cons_of_neg letter]
    rfl

/-- Without kana, the first letter with a script is Hangul or an ideograph. -/
theorem head?_scripts {text : Text} (noKana : .japanese ∉ scripts text) :
    (scripts text).head? = some .korean ↔ hangulFirst text = true := by
  induction text with
  | nil => simp [scripts, hangulFirst]
  | cons c rest induction =>
      have excluded : ∀ {script : Script}, Script.ofChar? c ≠ some script →
          script.includes c = false := fun other => by
        rw [Ne, Script.ofChar?_eq_some_iff, Bool.not_eq_true] at other
        rw [Script.includes, other, Bool.and_false]
      rw [scripts_cons] at noKana ⊢
      unfold hangulFirst at induction ⊢
      rw [List.find?_cons]
      cases letter : Character.isLetter c with
      | false =>
          rw [letter] at noKana
          simpa [Script.includes, letter] using induction (by simpa using noKana)
      | true =>
          rw [letter] at noKana
          cases found : Script.ofChar? c with
          | none =>
              rw [found] at noKana
              have others := induction (by simpa using noKana)
              simpa [excluded (by simp [found])] using others
          | some script =>
              have included : script.includes c = true := by
                rw [Script.includes, letter, Script.ofChar?_eq_some_iff.mp found, Bool.and_self]
              cases script with
              | korean => simp [included]
              | japanese => simp [found] at noKana
              | chinese =>
                  have notHangul : Script.korean.includes c = false := excluded (by simp [found])
                  simp [included, notHangul]

/-- The more frequent one of Hangul and ideographs, or the one that comes first if they are
equally frequent. -/
def prevailing (text : Text) : Script :=
  if lettersIn .chinese text < lettersIn .korean text then .korean
  else if lettersIn .korean text < lettersIn .chinese text then .chinese
  else if hangulFirst text then .korean
  else .chinese

/-- The script that is met first prevails, unless the other one is more frequent. -/
theorem prevailing_eq {text : Text} {first : Script} (noKana : .japanese ∉ scripts text)
    (isFirst : (scripts text).head? = some first) :
    prevailing text =
      let other : Script := if first = .korean then .chinese else .korean
      if lettersIn other text > lettersIn first text then other else first := by
  have leads := head?_scripts noKana
  rw [isFirst, Option.some.injEq] at leads
  unfold prevailing
  cases first with
  | japanese => exact absurd (List.mem_of_head? isFirst) noKana
  | korean =>
      have hangul : hangulFirst text = true := leads.mp rfl
      simp only [hangul, if_true]
      split_ifs
      · omega
      · rfl
      · rfl
      · rfl
  | chinese =>
      have ideograph : ¬hangulFirst text = true := fun hangul => by cases leads.mpr hangul
      simp only [ideograph, reduceCtorEq, if_false]
      split_ifs <;> rfl

/-- Without kana, the script that prevails is the answer if more than 15 of 100 letters are
written in it. -/
theorem script?_of_noKana {text : Text} (noKana : .japanese ∉ scripts text) :
    script? text =
      if lettersIn .korean text = 0 ∧ lettersIn .chinese text = 0 then none
      else if 100 * lettersIn (prevailing text) text > 15 * text.countP Character.isLetter then
        some (prevailing text)
      else none := by
  unfold script?
  simp only [List.contains_eq_mem, noKana, decide_false, Bool.false_eq_true, if_false,
    count_scripts]
  cases first : (scripts text).head? with
  | none =>
      have nothing : ∀ script, lettersIn script text = 0 := fun script => by
        rw [← count_scripts, List.head?_eq_none_iff.mp first, List.count_nil]
      simp [nothing]
  | some script =>
      have counted : 0 < lettersIn script text := mem_scripts_iff.mp (List.mem_of_head? first)
      have someCounted : ¬(lettersIn .korean text = 0 ∧ lettersIn .chinese text = 0) := by
        cases script with
        | japanese => exact absurd (List.mem_of_head? first) noKana
        | korean | chinese => omega
      rw [if_neg someCounted, prevailing_eq noKana first]

theorem lettersIn_prevailing (text : Text) : lettersIn (prevailing text) text =
    max (lettersIn .korean text) (lettersIn .chinese text) := by
  unfold prevailing
  split_ifs <;> omega

theorem code_script?_eq (text : Text) : (script? text).map Script.code =
    if 0 < lettersIn .japanese text then some "ja".toList
    else if lettersIn .korean text = 0 ∧ lettersIn .chinese text = 0 then none
    else if 100 * max (lettersIn .korean text) (lettersIn .chinese text) >
        15 * text.countP Character.isLetter then
      some (prevailing text).code
    else none := by
  by_cases kana : Script.japanese ∈ scripts text
  · have decided : script? text = some .japanese := by
      simp [script?, kana]
    rw [decided, if_pos (mem_scripts_iff.mp kana)]
    rfl
  · rw [script?_of_noKana kana, if_neg fun some => kana (mem_scripts_iff.mpr some),
      lettersIn_prevailing]
    split_ifs <;> rfl

/-! The order of the letters. -/

theorem lettersIn_perm {text other : Text} (same : text.Perm other) (script : Script) :
    lettersIn script other = lettersIn script text := same.symm.countP_eq _

theorem prevailing_perm {text other : Text} (same : text.Perm other)
    (different : lettersIn .korean text ≠ lettersIn .chinese text) :
    prevailing other = prevailing text := by
  unfold prevailing
  rw [lettersIn_perm same, lettersIn_perm same]
  rcases Nat.lt_or_gt_of_ne different with fewer | more
  · rw [if_neg (Nat.lt_asymm fewer), if_neg (Nat.lt_asymm fewer), if_pos fewer, if_pos fewer]
  · rw [if_pos more, if_pos more]

/-- Kana make a text Japanese. Without kana and with neither Hangul nor ideographs it has no
language. Otherwise it has the language of the more frequent ones of these, or of those that come
first if both are equally frequent, provided that more than 15 of 100 letters belong to them. So
unless both are equally frequent, and there are no kana, the order of the characters does not
matter. -/
theorem code_script?_by_counts (text : Text) :
    (script? text).map Script.code =
      (if 0 < lettersIn .japanese text then some "ja".toList
      else if lettersIn .korean text = 0 ∧ lettersIn .chinese text = 0 then none
      else if 100 * max (lettersIn .korean text) (lettersIn .chinese text) >
          15 * text.countP Character.isLetter then
        some (prevailing text).code
      else none) ∧
    ∀ other, text.Perm other →
      ¬(lettersIn .japanese text = 0 ∧ lettersIn .korean text = lettersIn .chinese text ∧
        0 < lettersIn .korean text) →
      (script? other).map Script.code = (script? text).map Script.code := by
  refine ⟨code_script?_eq text, fun other same ordered => ?_⟩
  have letters : other.countP Character.isLetter = text.countP Character.isLetter :=
    same.symm.countP_eq _
  rw [code_script?_eq, code_script?_eq, letters]
  simp only [lettersIn_perm same]
  by_cases equal : lettersIn .korean text = lettersIn .chinese text
  · -- there are kana, or nothing that could come first
    split_ifs
    · rfl
    · rfl
    · omega
    · rfl
  · rw [prevailing_perm same equal]

/-- Hangul and one ideograph among Latin letters, and the same from behind. -/
theorem code_script?_by_counts_reverse :
    (script? "Hi 中, 안녕").map Script.code = some "ko".toList ∧
      lettersIn .korean "Hi 中, 안녕" ≠ lettersIn .chinese "Hi 中, 안녕" ∧
      (script? (List.reverse "Hi 中, 안녕".toList)).map Script.code = some "ko".toList := by
  have counts : lettersIn .japanese "Hi 中, 안녕" = 0 ∧ lettersIn .korean "Hi 中, 안녕" = 2 ∧
      lettersIn .chinese "Hi 中, 안녕" = 1 := by
    decide +kernel
  have judged := code_script?_by_counts "Hi 中, 안녕"
  have korean : (script? "Hi 中, 안녕").map Script.code = some "ko".toList := by
    rw [judged.1]
    decide +kernel
  refine ⟨korean, by omega, ?_⟩
  rw [judged.2 _ (List.reverse_perm _).symm (by omega), korean]

/-- The order matters where Hangul and ideographs are equally frequent. -/
example : script? "가中" = some .korean ∧ script? "中가" = some .chinese := by decide +kernel

end RobotRules.Language
