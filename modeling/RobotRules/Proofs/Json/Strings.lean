import Mathlib.Data.List.Chain
import RobotRules.Json.Reader
import RobotRules.Json.Writer
import RobotRules.Proofs.Text

/-! Strings of JSON. A character is written as itself, behind a backslash, as one escape of four
digits or as a pair of them, half of a pair as one escape, and each way of writing a code point is
read as that point. Only a high surrogate and a low one behind it are read as one character. So
every string in which there are no such two is read back, and no string that was read has them. -/

namespace RobotRules

namespace Text

/-- The last digit is that of the units. -/
theorem hex_succ {width : Nat} (positive : 0 < width) (number : Nat) :
    hex (width + 1) number = hex width (number / 16) ++ [Nat.digitChar (number % 16)] := by
  unfold hex
  dsimp only
  by_cases small : number < 16
  · have noSixteens : number / 16 = 0 := by omega
    have zeros : List.replicate width '0' = List.replicate (width - 1) '0' ++ ['0'] := by
      rw [← List.replicate_succ', Nat.sub_add_cancel positive]
    rw [Nat.toDigits_of_lt_base small, Nat.mod_eq_of_lt small, noSixteens]
    simp [zeros]
  · rw [Nat.toDigits_of_base_le (by decide) (by omega)]
    simp

theorem hex_one {number : Nat} (small : number < 16) :
    hex 1 number = [Nat.digitChar number] := by
  unfold hex
  rw [Nat.toDigits_of_lt_base small]
  rfl

theorem hex_four {number : Nat} (small : number < 0x10000) : hex 4 number =
    [Nat.digitChar (number / 4096), Nat.digitChar (number / 256 % 16),
      Nat.digitChar (number / 16 % 16), Nat.digitChar (number % 16)] := by
  rw [hex_succ (by decide), hex_succ (by decide), hex_succ (by decide), hex_one (by omega)]
  simp [Nat.div_div_eq_div_mul]

end Text

namespace Json

theorem hexDigit?_digitChar : ∀ {digit : Nat}, digit < 16 →
    Character.hexDigit? (Nat.digitChar digit) = some digit := by
  decide

/-- The four digits of an escape are read back if something follows them. -/
theorem fourHex?_hex {unit : Nat} (small : unit < 0x10000) {rest : Text} (more : rest ≠ []) :
    fourHex? (Text.hex 4 unit ++ rest) = some unit := by
  rcases List.exists_cons_of_ne_nil more with ⟨c, others, rfl⟩
  rw [Text.hex_four small]
  simp only [List.cons_append, List.nil_append, fourHex?, List.mapM_cons, List.mapM_nil]
  rw [hexDigit?_digitChar (by omega), hexDigit?_digitChar (by omega),
    hexDigit?_digitChar (by omega), hexDigit?_digitChar (by omega)]
  simp
  omega

section Characters

variable {start rest : Text} {fuel : Nat} {c : Char}

/-- A code point is put in front of what else is read. -/
def andThen (point : Point) (others : Except Fault (Points × Text)) :
    Except Fault (Points × Text) := do
  let (others, rest) ← others
  return (point :: others, rest)

theorem readString_escaped {letter : Char} (escape : escaped? letter = some c)
    (start rest : Text) (fuel : Nat) :
    readString start (fuel + 1) ('\\' :: letter :: rest) =
      andThen (.char c) (readString start fuel rest) := by
  have notUnit : letter ≠ 'u' := by
    rintro rfl
    cases escape
  rw [readString]
  · rw [escape]
    rfl
  all_goals simp [notUnit]

theorem readString_plain (notQuote : c ≠ '"') (notBackslash : c ≠ '\\')
    (notControl : 32 ≤ c.toNat) (start rest : Text) (fuel : Nat) :
    readString start (fuel + 1) (c :: rest) = andThen (.char c) (readString start fuel rest) := by
  rw [readString]
  · rw [if_neg (by omega)]
    rfl
  all_goals simp [notQuote, notBackslash]

theorem drop_hex {unit : Nat} (small : unit < 0x10000) (rest : Text) :
    (Text.hex 4 unit ++ rest).drop 4 = rest := by
  rw [Text.hex_four small]
  rfl

theorem unitEscape_append (unit : Nat) (rest : Text) :
    unitEscape unit ++ rest = '\\' :: 'u' :: (Text.hex 4 unit ++ rest) := rfl

theorem unitEscape_append_ne_nil (unit : Nat) (rest : Text) : unitEscape unit ++ rest ≠ [] :=
  List.cons_ne_nil '\\' _

/-- A unit is a code point of its own if no low surrogate follows a high one. -/
theorem readString_unit {unit : Nat} (small : unit < 0x10000)
    (alone : Text.isHighSurrogate unit = true → lowSurrogate? rest = .ok none) (more : rest ≠ [])
    (start : Text) (fuel : Nat) :
    readString start (fuel + 1) (unitEscape unit ++ rest) =
      andThen (.ofUnit unit) (readString start fuel rest) := by
  rw [unitEscape_append, readString]
  · rw [fourHex?_hex small more]
    dsimp only
    rw [drop_hex small]
    split_ifs with isHigh
    · rw [alone isHigh]
      rfl
    · rfl

/-- A high surrogate and a low one are one character. -/
theorem readString_pair {high low : Nat} (isHigh : Text.isHighSurrogate high = true)
    (isLow : Text.isLowSurrogate low = true) (more : rest ≠ []) (start : Text) (fuel : Nat) :
    readString start (fuel + 1) (unitEscape high ++ (unitEscape low ++ rest)) =
      andThen (.char (Text.ofPair high low)) (readString start fuel rest) := by
  have highSmall : high < 0x10000 := by
    simp [Text.isHighSurrogate] at isHigh
    omega
  have lowSmall : low < 0x10000 := by
    simp [Text.isLowSurrogate] at isLow
    omega
  have long : ¬(Text.hex 4 low ++ rest).length < 5 := by
    have := List.length_pos_iff.mpr more
    rw [Text.hex_four lowSmall]
    simp
    omega
  have found : lowSurrogate? (unitEscape low ++ rest) = .ok (some low) := by
    rw [unitEscape_append, lowSurrogate?, if_neg long, fourHex?_hex lowSmall more]
    dsimp only
    rw [isLow]
    rfl
  have after : (unitEscape low ++ rest).drop 6 = rest := drop_hex lowSmall rest
  rw [unitEscape_append, readString]
  · rw [fourHex?_hex highSmall (unitEscape_append_ne_nil low rest)]
    dsimp only
    rw [drop_hex highSmall, isHigh, if_pos rfl, found]
    dsimp only [bind, Except.bind]
    rw [after]
    rfl

end Characters

/-! Surrogates by their offsets. -/

section Offsets

variable (offset : Fin 0x400)

theorem small_high : 0xd800 + (offset : Nat) < 0x10000 := by omega

theorem small_low : 0xdc00 + (offset : Nat) < 0x10000 := by omega

theorem isHighSurrogate_high : Text.isHighSurrogate (0xd800 + offset) = true := by
  simp [Text.isHighSurrogate]
  omega

theorem isLowSurrogate_high : Text.isLowSurrogate (0xd800 + offset) = false := by
  simp [Text.isLowSurrogate]
  omega

theorem isHighSurrogate_low : Text.isHighSurrogate (0xdc00 + offset) = false := by
  simp [Text.isHighSurrogate]

theorem isLowSurrogate_low : Text.isLowSurrogate (0xdc00 + offset) = true := by
  simp [Text.isLowSurrogate]
  omega

theorem ofUnit_high : Point.ofUnit (0xd800 + offset) = .high offset := by
  rw [Point.ofUnit, if_pos (isHighSurrogate_high offset), Nat.add_sub_cancel_left]
  exact congrArg Point.high (Fin.ofNat_val_eq_self offset)

theorem ofUnit_low : Point.ofUnit (0xdc00 + offset) = .low offset := by
  rw [Point.ofUnit, isHighSurrogate_low, if_neg (by decide), if_pos (isLowSurrogate_low offset),
    Nat.add_sub_cancel_left]
  exact congrArg Point.low (Fin.ofNat_val_eq_self offset)

end Offsets

/-! The ways in which a character is written. -/

/-- The visible characters of ASCII and the blank. -/
def IsPrintable (c : Char) : Prop := 32 ≤ c.toNat ∧ c.toNat ≤ 126

instance (c : Char) : Decidable (IsPrintable c) :=
  inferInstanceAs (Decidable (32 ≤ c.toNat ∧ c.toNat ≤ 126))

/-- How a character can be written. Beyond the first 65536 it is a pair of surrogates. -/
inductive WrittenAs (c : Char) : Text → Prop
  | escape {letter : Char} : escaped? letter = some c → WrittenAs c ['\\', letter]
  | plain : c ≠ '"' → c ≠ '\\' → IsPrintable c → WrittenAs c [c]
  | unit : c.toNat < 0x10000 → WrittenAs c (unitEscape c.toNat)
  | pair (high low : Fin 0x400) : Text.ofPair (0xd800 + high) (0xdc00 + low) = c →
      WrittenAs c (unitEscape (0xd800 + high) ++ unitEscape (0xdc00 + low))

theorem surrogates_of_char (c : Char) :
    Text.isHighSurrogate c.toNat = false ∧ Text.isLowSurrogate c.toNat = false := by
  have valid : c.toNat < 0xd800 ∨ 0xdfff < c.toNat ∧ c.toNat < 0x110000 := c.valid
  simp [Text.isHighSurrogate, Text.isLowSurrogate]
  omega

theorem ofUnit_char (c : Char) : Point.ofUnit c.toNat = .char c := by
  have plain := surrogates_of_char c
  rw [Point.ofUnit, plain.1, plain.2]
  exact congrArg Point.char (Char.ofNat_toNat c)

/-- The two halves of the offset go to the two surrogates. -/
theorem exists_pair {c : Char} (beyond : 0x10000 ≤ c.toNat) : ∃ high low : Fin 0x400,
    c.toNat - 0x10000 = high * 0x400 + low ∧
      Text.ofPair (0xd800 + high) (0xdc00 + low) = c := by
  have valid : c.toNat < 0xd800 ∨ 0xdfff < c.toNat ∧ c.toNat < 0x110000 := c.valid
  refine ⟨⟨(c.toNat - 0x10000) / 0x400, by omega⟩, ⟨(c.toNat - 0x10000) % 0x400, by omega⟩,
    by dsimp only; omega, ?_⟩
  have number : 0x10000 + (0xd800 + (c.toNat - 0x10000) / 0x400 - 0xd800) * 0x400 +
      (0xdc00 + (c.toNat - 0x10000) % 0x400 - 0xdc00) = c.toNat := by omega
  rw [Text.ofPair, number, Char.ofNat_toNat]

theorem writtenAs_writeCharacter (c : Char) : WrittenAs c (writeCharacter c) := by
  unfold writeCharacter
  split_ifs with special newLine carriage tab feed back visible small
  · rcases special with rfl | rfl
    · exact .escape rfl
    · exact .escape rfl
  · exact newLine ▸ .escape rfl
  · exact carriage ▸ .escape rfl
  · exact tab ▸ .escape rfl
  · exact feed ▸ .escape rfl
  · exact back ▸ .escape rfl
  · rw [not_or] at special
    exact .plain special.1 special.2 visible
  · exact .unit small
  · rcases exists_pair (not_lt.mp small) with ⟨high, low, offset, same⟩
    have halves : (c.toNat - 0x10000) / 0x400 = high ∧ (c.toNat - 0x10000) % 0x400 = low := by
      omega
    dsimp only
    rw [halves.1, halves.2]
    exact .pair high low same

theorem isPrintable_digitChar : ∀ {digit : Nat}, digit < 16 →
    IsPrintable (Nat.digitChar digit) := by
  decide

theorem isPrintable_unitEscape {unit : Nat} (small : unit < 0x10000) :
    ∀ c ∈ unitEscape unit, IsPrintable c := by
  rw [unitEscape, Text.hex_four small]
  simp only [List.forall_mem_append, List.forall_mem_cons]
  exact ⟨Text.forall_mem_of_all rfl, isPrintable_digitChar (by omega),
    isPrintable_digitChar (by omega), isPrintable_digitChar (by omega),
    isPrintable_digitChar (by omega), by simp⟩

theorem isPrintable_of_escaped? {letter c : Char} (escape : escaped? letter = some c) :
    IsPrintable letter := by
  unfold escaped? at escape
  split at escape
  case h_9 => cases escape
  all_goals decide

theorem lowSurrogate?_of_ne {text : Text} (other : ∀ rest, text ≠ '\\' :: 'u' :: rest) :
    lowSurrogate? text = .ok none := by
  unfold lowSurrogate?
  split
  · exact absurd rfl (other _)
  · rfl

theorem lowSurrogate?_unitEscape {unit : Nat} (small : unit < 0x10000)
    (notLow : Text.isLowSurrogate unit = false) {rest : Text} (more : rest ≠ []) :
    lowSurrogate? (unitEscape unit ++ rest) = .ok none := by
  rw [unitEscape_append, lowSurrogate?, fourHex?_hex small more]
  dsimp only
  rw [notLow]
  exact ite_self _

namespace WrittenAs

variable {c : Char} {written rest : Text} (isWritten : WrittenAs c written)

include isWritten

theorem isPrintable : ∀ d ∈ written, IsPrintable d := by
  cases isWritten with
  | escape escape =>
      simpa using ⟨by decide, isPrintable_of_escaped? escape⟩
  | plain _ _ visible => exact List.forall_mem_singleton.mpr visible
  | unit small => exact isPrintable_unitEscape small
  | pair high low =>
      exact List.forall_mem_append.mpr ⟨isPrintable_unitEscape (small_high high),
        isPrintable_unitEscape (small_low low)⟩

theorem readString (more : rest ≠ []) (start : Text) (fuel : Nat) :
    readString start (fuel + 1) (written ++ rest) =
      andThen (.char c) (readString start fuel rest) := by
  cases isWritten with
  | escape escape => exact readString_escaped escape start rest fuel
  | plain notQuote notBackslash visible =>
      exact readString_plain notQuote notBackslash visible.1 start rest fuel
  | unit small =>
      have alone : Text.isHighSurrogate c.toNat = true → lowSurrogate? rest = .ok none := by
        simp [surrogates_of_char c]
      rw [readString_unit small alone more, ofUnit_char]
  | pair high low same =>
      rw [List.append_assoc, readString_pair (isHighSurrogate_high high)
        (isLowSurrogate_low low) more, same]

/-- No character is taken for a low surrogate. -/
theorem lowSurrogate? (more : rest ≠ []) : lowSurrogate? (written ++ rest) = .ok none := by
  cases isWritten with
  | @escape letter escape =>
      refine lowSurrogate?_of_ne fun others equal => ?_
      obtain rfl : letter = 'u' := (List.cons.inj (List.cons.inj equal).2).1
      cases escape
  | plain _ notBackslash _ =>
      exact lowSurrogate?_of_ne fun _ equal => notBackslash (List.cons.inj equal).1
  | unit small => exact lowSurrogate?_unitEscape small (surrogates_of_char c).2 more
  | pair high low =>
      rw [List.append_assoc]
      exact lowSurrogate?_unitEscape (small_high high) (isLowSurrogate_high high)
        (unitEscape_append_ne_nil _ rest)

end WrittenAs

/-! Halves of pairs. -/

/-- A code point can stand before another one: not a high surrogate before a low one. -/
def MayPrecede : Point → Point → Prop
  | .high _, .low _ => False
  | _, _ => True

/-- In a string no two code points make one character. -/
abbrev IsSettled (points : Points) : Prop := points.IsChain MayPrecede

theorem isSettled_points (text : Text) : IsSettled text.points := by
  induction text with
  | nil => exact .nil
  | cons c others induction => exact List.isChain_cons.mpr ⟨fun _ _ => trivial, induction⟩

theorem isSettled_singleton (point : Point) : IsSettled [point] := .singleton point

/-- A high surrogate stands alone if what is written behind it is no low one. -/
theorem lowSurrogate?_flatMap {offset : Fin 0x400} {others : Points}
    (settled : IsSettled (.high offset :: others)) (rest : Text) :
    lowSurrogate? (others.flatMap writePoint ++ '"' :: rest) = .ok none := by
  cases others with
  | nil => rfl
  | cons next others =>
      have more : others.flatMap writePoint ++ '"' :: rest ≠ [] := by simp
      rw [List.flatMap_cons, List.append_assoc]
      cases next with
      | char c => exact (writtenAs_writeCharacter c).lowSurrogate? more
      | high offset =>
          exact lowSurrogate?_unitEscape (small_high offset) (isLowSurrogate_high offset) more
      | low offset => exact absurd (List.isChain_cons_cons.mp settled).1 id

theorem readString_writePoint {point : Point} {others : Points}
    (settled : IsSettled (point :: others)) (start rest : Text) (fuel : Nat) :
    let written := others.flatMap writePoint ++ '"' :: rest
    readString start (fuel + 1) (writePoint point ++ written) =
      andThen point (readString start fuel written) := by
  have more : others.flatMap writePoint ++ '"' :: rest ≠ [] := by simp
  cases point with
  | char c => exact (writtenAs_writeCharacter c).readString more start fuel
  | high offset =>
      have alone := lowSurrogate?_flatMap settled rest
      have read := readString_unit (small_high offset) (fun _ => alone) more start fuel
      rwa [ofUnit_high] at read
  | low offset =>
      have alone : Text.isHighSurrogate (0xdc00 + offset) = true →
          lowSurrogate? (others.flatMap writePoint ++ '"' :: rest) = .ok none := by
        simp [isHighSurrogate_low]
      have read := readString_unit (small_low offset) alone more start fuel
      rwa [ofUnit_low] at read

/-- The string behind the quote that opens it is read up to the one that closes it. -/
theorem readString_flatMap (start rest : Text) {points : Points} (settled : IsSettled points)
    {fuel : Nat} (enough : points.length < fuel) :
    readString start fuel (points.flatMap writePoint ++ '"' :: rest) = .ok (points, rest) := by
  induction points generalizing fuel with
  | nil =>
      cases fuel with
      | zero => cases enough
      | succ fuel => rw [List.flatMap_nil, List.nil_append, readString]
  | cons point others induction =>
      cases fuel with
      | zero => cases enough
      | succ fuel =>
          rw [List.flatMap_cons, List.append_assoc, readString_writePoint settled,
            induction (List.isChain_cons.mp settled).2 (Nat.lt_of_succ_lt_succ enough)]
          rfl

theorem writePoint_ne_nil (point : Point) : writePoint point ≠ [] := by
  intro empty
  have read := readString_writePoint (isSettled_singleton point) [] [] 0
  rw [empty] at read
  cases read

theorem length_le_flatMap (points : Points) :
    points.length ≤ (points.flatMap writePoint).length := by
  induction points with
  | nil => exact Nat.le_refl _
  | cons point others induction =>
      have := List.length_pos_iff.mpr (writePoint_ne_nil point)
      rw [List.flatMap_cons, List.length_append, List.length_cons]
      omega

theorem readString_written (start rest : Text) {points : Points} (settled : IsSettled points) :
    let written := points.flatMap writePoint ++ '"' :: rest
    readString start (written.length + 1) written = .ok (points, rest) := by
  have := length_le_flatMap points
  refine readString_flatMap start rest settled ?_
  rw [List.length_append, List.length_cons]
  omega

/-! What is written of a string can be seen, all of it. -/

theorem isPrintable_writePoint (point : Point) : ∀ c ∈ writePoint point, IsPrintable c := by
  cases point with
  | char c => exact (writtenAs_writeCharacter c).isPrintable
  | high offset => exact isPrintable_unitEscape (small_high offset)
  | low offset => exact isPrintable_unitEscape (small_low offset)

end Json

end RobotRules
