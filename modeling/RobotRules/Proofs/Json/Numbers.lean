import RobotRules.Proofs.Double.Decimal
import RobotRules.Proofs.Json.Strings

/-! Numbers of JSON. An integer that can be written is read back, and so is every number with a
fraction or a power of ten, in each layout of its digits. -/

namespace RobotRules.Json

open Number (writeNat)

/-! Rows of digits. -/

/-- The number that a row of digits spells. -/
def spelled (digits : Text) : Nat := Number.ofDigits (digits.filterMap Character.digit?)

def AreDigits (text : Text) : Prop := ∀ c ∈ text, c.isDigit = true

theorem areDigits_writeNat (number : Nat) : AreDigits (writeNat number) :=
  fun _ => Number.isDigit_of_mem_writeNat

theorem areDigits_zeros (count : Nat) : AreDigits (List.replicate count '0') := by
  intro c member
  rw [List.eq_of_mem_replicate member]
  rfl

theorem AreDigits.append {left right : Text} (digits : AreDigits left)
    (digits' : AreDigits right) : AreDigits (left ++ right) :=
  List.forall_mem_append.mpr ⟨digits, digits'⟩

theorem spelled_eq {digits : Text} (areDigits : AreDigits digits) :
    spelled digits = Number.ofDigits (digits.map (·.toNat - 48)) := by
  have each : digits.filterMap Character.digit? = digits.map (·.toNat - 48) := by
    rw [← List.filterMap_eq_map]
    exact List.filterMap_congr fun c member => Number.digit?_of_isDigit (areDigits c member)
  rw [spelled, each]

theorem spelled_writeNat (number : Nat) : spelled (writeNat number) = number := by
  rw [spelled_eq (areDigits_writeNat number), Number.ofDigits_writeNat]

theorem spelled_lt {digits : Text} (areDigits : AreDigits digits) :
    spelled digits < 10 ^ digits.length := by
  rw [spelled_eq areDigits, ← List.length_map (fun c : Char => c.toNat - 48)]
  apply Number.ofDigits_lt
  intro digit member
  rcases List.mem_map.mp member with ⟨c, inDigits, rfl⟩
  have := Number.bounds_of_isDigit (areDigits c inDigits)
  omega

theorem spelled_zeros_append (count : Nat) (digits : Text) :
    spelled (List.replicate count '0' ++ digits) = spelled digits := by
  induction count with
  | zero => rfl
  | succ count induction => exact induction

theorem spelled_append_zeros (digits : Text) (count : Nat) :
    spelled (digits ++ List.replicate count '0') = spelled digits * 10 ^ count := by
  induction count with
  | zero => simp
  | succ count induction =>
      have last : Character.digit? '0' = some 0 := rfl
      unfold spelled Number.ofDigits at induction ⊢
      rw [List.replicate_succ', ← List.append_assoc, List.filterMap_append, List.foldl_append,
        induction]
      simp [last, Nat.pow_succ, Nat.mul_comm 10, Nat.mul_assoc]

/-! The parts of a number. -/

/-- What follows does not go on with the number. -/
def EndsNumber (rest : Text) : Prop :=
  ∀ c, rest.head? = some c → c.isDigit = false ∧ c ≠ '.' ∧ c ≠ 'e' ∧ c ≠ 'E'

theorem endsNumber_nil : EndsNumber [] := by
  intro c first
  cases first

def EndsDigits (rest : Text) : Prop := ∀ c, rest.head? = some c → c.isDigit = false

theorem EndsNumber.endsDigits {rest : Text} (ends : EndsNumber rest) : EndsDigits rest :=
  fun c first => (ends c first).1

variable {row rest : Text}

theorem digits_append (areDigits : AreDigits row) (ends : EndsDigits rest) :
    digits (row ++ rest) = (row, rest) := by
  have stop : rest.takeWhile Char.isDigit = [] ∧ rest.dropWhile Char.isDigit = rest := by
    cases rest with
    | nil => exact ⟨rfl, rfl⟩
    | cons c others =>
        have noDigit := ends c rfl
        constructor
        · rw [List.takeWhile_cons_of_neg (by simp [noDigit])]
        · rw [List.dropWhile_cons_of_neg (by simp [noDigit])]
  rw [digits, List.takeWhile_append_of_pos areDigits, List.dropWhile_append_of_pos areDigits,
    stop.1, stop.2, List.append_nil]

/-- A row of digits that may stand before the point: no zero is in front of others. -/
structure IsWhole (row : Text) : Prop where
  nonempty : row ≠ []
  digits : AreDigits row
  leading : row.head? = some '0' → row = ['0']

theorem wholePart?_append (whole : IsWhole row) (ends : EndsDigits rest) :
    wholePart? (row ++ rest) = some (row, rest) := by
  rcases List.exists_cons_of_ne_nil whole.nonempty with ⟨c, others, rfl⟩
  by_cases zero : c = '0'
  · have alone := whole.leading (by rw [zero]; rfl)
    rw [alone]
    rfl
  · rw [wholePart?]
    · rw [digits_append whole.digits ends]
    · intro rest' equal
      exact zero (List.cons.inj equal).1

theorem isWhole_append {others : Text} (whole : IsWhole row) (digits : AreDigits others)
    (large : row.head? ≠ some '0') : IsWhole (row ++ others) := by
  refine ⟨by simp [whole.nonempty], whole.digits.append digits, fun leading => ?_⟩
  rw [List.head?_append_of_ne_nil _ whole.nonempty] at leading
  exact absurd leading large

theorem fractionPart_point (nonempty : row ≠ []) (areDigits : AreDigits row)
    (ends : EndsDigits rest) : fractionPart ('.' :: (row ++ rest)) = (row, rest) := by
  rw [fractionPart, digits_append areDigits ends]
  cases row with
  | nil => exact absurd rfl nonempty
  | cons c others => rfl

theorem fractionPart_none (noPoint : rest.head? ≠ some '.') : fractionPart rest = ([], rest) := by
  cases rest with
  | nil => rfl
  | cons c others =>
      rw [fractionPart]
      rintro others' equal
      exact noPoint (by rw [equal]; rfl)

theorem powerPart_none (noMark : rest.head? ≠ some 'e' ∧ rest.head? ≠ some 'E') :
    powerPart rest = (none, rest) := by
  cases rest with
  | nil => rfl
  | cons c others =>
      have : ¬(c = 'e' ∨ c = 'E') := by simpa using noMark
      rw [powerPart]
      dsimp only
      rw [if_neg this]

/-- The digits of a written power. -/
def powerDigits (power : Int) : Text :=
  let digits := writeNat power.natAbs
  if digits.length < 2 then '0' :: digits else digits

theorem areDigits_powerDigits (power : Int) : AreDigits (powerDigits power) := by
  have areDigits := areDigits_writeNat power.natAbs
  unfold powerDigits
  dsimp only
  split_ifs
  · exact (areDigits_zeros 1).append areDigits
  · exact areDigits

theorem powerDigits_ne_nil (power : Int) : powerDigits power ≠ [] := by
  unfold powerDigits
  dsimp only
  split_ifs
  · simp
  · exact Nat.toDigits_ne_nil

theorem spelled_powerDigits (power : Int) : spelled (powerDigits power) = power.natAbs := by
  unfold powerDigits
  dsimp only
  split_ifs
  · exact (spelled_zeros_append 1 _).trans (spelled_writeNat _)
  · exact spelled_writeNat _

theorem powerPart_writePower (power : Int) (ends : EndsDigits rest) :
    powerPart (Double.writePower power ++ rest) = (some power, rest) := by
  have found := digits_append (areDigits_powerDigits power) ends
  have value := spelled_powerDigits power
  have sign : Number.splitSign ((if power < 0 then '-' else '+') :: (powerDigits power ++ rest)) =
      (decide (power < 0), powerDigits power ++ rest) := by
    by_cases negative : power < 0
    · simp [negative, Number.splitSign]
    · simp [negative, Number.splitSign]
  have written : Double.writePower power ++ rest =
      'e' :: (if power < 0 then '-' else '+') :: (powerDigits power ++ rest) := rfl
  rw [written, powerPart]
  dsimp only
  rw [if_pos (.inl rfl), sign]
  dsimp only
  rw [found]
  cases row : powerDigits power with
  | nil => exact absurd row (powerDigits_ne_nil power)
  | cons c others =>
      rw [row] at value
      unfold spelled at value
      dsimp only
      rw [value]
      by_cases negative : power < 0
      · rw [decide_eq_true negative, if_pos rfl, Int.natCast_natAbs, abs_of_neg negative, neg_neg]
      · rw [decide_eq_false negative, if_neg (by simp), Int.natCast_natAbs,
          abs_of_nonneg (by omega)]

/-! Whole numbers, as they are written. -/

theorem head?_writeNat_ne {number : Nat} (nonzero : number ≠ 0) :
    (writeNat number).head? ≠ some '0' := by
  intro leading
  rcases List.head?_eq_some_iff.mp leading with ⟨others, equal⟩
  have large := Number.pow_length_writeNat_le nonzero
  have areDigits : AreDigits others := fun c member =>
    areDigits_writeNat number c (by simp [equal, member])
  have small : number < 10 ^ others.length := by
    calc number
      _ = spelled ('0' :: others) := by rw [← equal, spelled_writeNat]
      _ = spelled others := spelled_zeros_append 1 others
      _ < 10 ^ others.length := spelled_lt areDigits
  rw [equal] at large
  exact absurd large (Nat.not_le_of_lt small)

theorem isWhole_zero : IsWhole ['0'] :=
  ⟨by simp, areDigits_zeros 1, fun _ => rfl⟩

theorem isWhole_writeNat (number : Nat) : IsWhole (writeNat number) := by
  refine ⟨Nat.toDigits_ne_nil, areDigits_writeNat number, fun leading => ?_⟩
  by_cases zero : number = 0
  · rw [zero]
    rfl
  · exact absurd leading (head?_writeNat_ne zero)

/-! Reading the parts together. -/

/-- The sign of a number. -/
def sign (negative : Bool) : Text := if negative then ['-'] else []

variable {whole : Text}

theorem readNumber_eq (negative : Bool) (row : IsWhole whole) (ends : EndsDigits rest) :
    readNumber (sign negative ++ (whole ++ rest)) =
      let (fraction, afterFraction) := fractionPart rest
      let (power, rest) := powerPart afterFraction
      let value := spelled (whole ++ fraction)
      if fraction.isEmpty && power.isNone then
        if whole.length > Number.digitLimit then .error .integerTooLong
        else .ok (.integer (if negative then -(value : Int) else value), rest)
      else
        .ok (.float ((Decimal.mk value (power.getD 0 - fraction.length)).toDouble negative),
          rest) := by
  have found := wholePart?_append row ends
  cases negative with
  | true =>
      have minus : sign true ++ (whole ++ rest) = '-' :: (whole ++ rest) := rfl
      rw [minus, readNumber]
      dsimp only
      rw [found]
      rfl
  | false =>
      rcases List.exists_cons_of_ne_nil row.nonempty with ⟨c, others, equal⟩
      have notMinus : c ≠ '-' := by
        rintro rfl
        exact absurd (row.digits '-' (by simp [equal])) (by decide)
      have unsigned : sign false ++ (whole ++ rest) = whole ++ rest := rfl
      rw [unsigned, readNumber]
      · dsimp only
        rw [found]
        rfl
      · intro rest' minus
        rw [equal] at minus
        exact notMinus (List.cons.inj minus).1

theorem endsDigits_cons {c : Char} (noDigit : c.isDigit = false) (rest : Text) :
    EndsDigits (c :: rest) := by
  rintro d first
  exact Option.some.inj first ▸ noDigit

theorem EndsNumber.noPoint (ends : EndsNumber rest) : rest.head? ≠ some '.' :=
  fun first => (ends _ first).2.1 rfl

theorem EndsNumber.noPower (ends : EndsNumber rest) : powerPart rest = (none, rest) :=
  powerPart_none ⟨fun first => (ends _ first).2.2.1 rfl, fun first => (ends _ first).2.2.2 rfl⟩

theorem endsDigits_writePower (power : Int) (rest : Text) :
    EndsDigits (Double.writePower power ++ rest) :=
  endsDigits_cons rfl _

/-- Digits alone are an integer. -/
theorem readNumber_whole (negative : Bool) (row : IsWhole whole) (ends : EndsNumber rest)
    (short : whole.length ≤ Number.digitLimit) :
    readNumber (sign negative ++ (whole ++ rest)) =
      .ok (.integer (if negative then -(spelled whole : Int) else spelled whole), rest) := by
  rw [readNumber_eq negative row ends.endsDigits, fractionPart_none ends.noPoint]
  dsimp only
  rw [ends.noPower, List.append_nil]
  simp [Nat.not_lt.mpr short]

/-- Digits with a point between them. -/
theorem readNumber_point (negative : Bool) (row : IsWhole whole) {fraction : Text}
    (nonempty : fraction ≠ []) (areDigits : AreDigits fraction) (ends : EndsNumber rest) :
    readNumber (sign negative ++ (whole ++ '.' :: (fraction ++ rest))) =
      .ok (.float ((Decimal.mk (spelled (whole ++ fraction)) (-fraction.length)).toDouble
        negative), rest) := by
  have isFraction : fraction.isEmpty = false := by simpa using nonempty
  rw [readNumber_eq negative row (endsDigits_cons rfl _),
    fractionPart_point nonempty areDigits ends.endsDigits]
  dsimp only
  rw [ends.noPower, isFraction, Option.getD_none, Int.zero_sub]
  rfl

/-- One digit and a power. -/
theorem readNumber_power (negative : Bool) (row : IsWhole whole) (power : Int)
    (ends : EndsNumber rest) :
    readNumber (sign negative ++ (whole ++ (Double.writePower power ++ rest))) =
      .ok (.float ((Decimal.mk (spelled whole) power).toDouble negative), rest) := by
  rw [readNumber_eq negative row (endsDigits_writePower power rest),
    fractionPart_none (by simp [Double.writePower])]
  dsimp only
  rw [powerPart_writePower power ends.endsDigits, List.append_nil]
  simp

/-- One digit in front of the point, others behind it, and a power. -/
theorem readNumber_point_power (negative : Bool) (row : IsWhole whole) {fraction : Text}
    (nonempty : fraction ≠ []) (areDigits : AreDigits fraction) (power : Int)
    (ends : EndsNumber rest) :
    readNumber (sign negative ++
        (whole ++ '.' :: (fraction ++ (Double.writePower power ++ rest)))) =
      .ok (.float ((Decimal.mk (spelled (whole ++ fraction)) (power - fraction.length)).toDouble
        negative), rest) := by
  rw [readNumber_eq negative row (endsDigits_cons rfl _),
    fractionPart_point nonempty areDigits (endsDigits_writePower power rest)]
  dsimp only
  rw [powerPart_writePower power ends.endsDigits]
  simp

/-! The layouts of a decimal. -/

section Layouts

variable {row : Text} {decimal : Decimal} (isWhole : IsWhole row)
  (value : spelled row = decimal.digits) (negative : Bool) (ends : EndsNumber rest)

include isWhole value ends

/-- All digits stand behind the point, after some zeros. -/
theorem readNumber_behind {count : Nat}
    (exponent : decimal.exponent = -(count + row.length : Nat)) :
    readNumber (sign negative ++ (['0'] ++ '.' :: (List.replicate count '0' ++ row ++ rest))) =
      .ok (.float (decimal.toDouble negative), rest) := by
  have total : spelled (['0'] ++ (List.replicate count '0' ++ row)) = decimal.digits :=
    ((spelled_zeros_append 1 _).trans (spelled_zeros_append _ _)).trans value
  have same : Decimal.mk (spelled (['0'] ++ (List.replicate count '0' ++ row)))
      (-((List.replicate count '0' ++ row).length : Nat)) = decimal := by
    rw [total, List.length_append, List.length_replicate, ← exponent]
  rw [readNumber_point negative isWhole_zero (by simp [isWhole.nonempty])
    ((areDigits_zeros count).append isWhole.digits) ends, same]

omit isWhole in
/-- All digits stand before the point, and some zeros. -/
theorem readNumber_before {count : Nat} (wide : IsWhole (row ++ List.replicate count '0'))
    (exponent : decimal.exponent = count) :
    readNumber (sign negative ++ (row ++ List.replicate count '0' ++ '.' :: (['0'] ++ rest))) =
      .ok (.float (decimal.toDouble negative), rest) := by
  have total : spelled (row ++ List.replicate count '0' ++ ['0']) =
      decimal.digits * 10 ^ count * 10 :=
    (spelled_append_zeros _ 1).trans (by rw [spelled_append_zeros, value, Nat.pow_one])
  have same : (Decimal.mk (spelled (row ++ List.replicate count '0' ++ ['0'])) (-(1 : Nat))).value =
      decimal.value := by
    rw [Decimal.value, Decimal.value, total, exponent]
    push_cast
    rw [zpow_natCast]
    ring
  rw [readNumber_point negative wide (by simp) isWhole_zero.digits ends]
  exact congrArg (fun double => Except.ok (Json.float double, rest))
    (Decimal.toDouble_congr same negative)

/-- The point stands between two digits. -/
theorem readNumber_between {place : Nat} (positive : 0 < place) (inside : place < row.length)
    (large : row.head? ≠ some '0') (exponent : decimal.exponent = place - row.length) :
    readNumber (sign negative ++ (row.take place ++ '.' :: (row.drop place ++ rest))) =
      .ok (.float (decimal.toDouble negative), rest) := by
  have start : IsWhole (row.take place) := by
    refine ⟨?_, fun c member => isWhole.digits c (List.mem_of_mem_take member), fun leading => ?_⟩
    · simp [isWhole.nonempty, positive.ne']
    · rw [List.head?_take, if_neg positive.ne'] at leading
      exact absurd leading large
  have same : Decimal.mk (spelled (row.take place ++ row.drop place))
      (-((row.drop place).length : Nat)) = decimal := by
    have count : (-((row.drop place).length : Nat) : Int) = decimal.exponent := by
      rw [List.length_drop, exponent]
      omega
    rw [List.take_append_drop, value, count]
  rw [readNumber_point negative start (by simp [inside])
    (fun c member => isWhole.digits c (List.mem_of_mem_drop member)) ends, same]

end Layouts

/-- One digit stands before the point, the others behind it, and a power of ten follows. -/
theorem readNumber_scientific {first : Char} {others : Text} {decimal : Decimal}
    (isWhole : IsWhole (first :: others)) (several : others ≠ [])
    (value : spelled (first :: others) = decimal.digits) (negative : Bool)
    (ends : EndsNumber rest) {power : Int} (place : power = decimal.exponent + others.length) :
    readNumber (sign negative ++
        ([first] ++ '.' :: (others ++ (Double.writePower power ++ rest)))) =
      .ok (.float (decimal.toDouble negative), rest) := by
  have one : IsWhole [first] := by
    refine ⟨by simp, fun c member => isWhole.digits c ?_, fun leading => ?_⟩
    · exact List.mem_singleton.mp member ▸ List.mem_cons_self
    · exact congrArg (fun c => [c]) (Option.some.inj leading)
  have same : Decimal.mk (spelled ([first] ++ others)) (power - others.length) = decimal := by
    rw [List.singleton_append, value, place, Int.add_sub_cancel]
  rw [readNumber_point_power negative one several
    (fun c member => isWhole.digits c (List.mem_cons_of_mem _ member)) power ends, same]

/-- A decimal is read back as the number that it stands for, in whatever layout it is written.
Zero has no power of ten. -/
theorem readNumber_writeDecimal (negative : Bool) {decimal : Decimal}
    (plain : decimal.digits = 0 → decimal.exponent = 0) (ends : EndsNumber rest) :
    readNumber (sign negative ++ (Double.writeDecimal decimal ++ rest)) =
      .ok (.float (decimal.toDouble negative), rest) := by
  have isWhole := isWhole_writeNat decimal.digits
  have value := spelled_writeNat decimal.digits
  have large := @head?_writeNat_ne decimal.digits
  have single : decimal.digits = 0 → (writeNat decimal.digits).length = 1 := fun zero => by
    rw [zero]
    rfl
  unfold Double.writeDecimal Double.lowestPlace Double.highestPlace
  dsimp only
  generalize writeNat decimal.digits = row at isWhole value large single ⊢
  have lengthPos : 0 < row.length := List.length_pos_iff.mpr isWhole.nonempty
  split_ifs with full small short
  · have read := @readNumber_behind rest row decimal isWhole value negative ends
      (-(decimal.exponent + row.length - 1) - 1).toNat (by omega)
    simpa using read
  -- zeros behind a zero would be read otherwise, but there are none
  · have wide : IsWhole (row ++ List.replicate
        ((decimal.exponent + row.length - 1 + 1).toNat - row.length) '0') := by
      by_cases zero : decimal.digits = 0
      · have none : (decimal.exponent + row.length - 1 + 1).toNat - row.length = 0 := by
          have := plain zero
          omega
        rw [none, List.replicate_zero, List.append_nil]
        exact isWhole
      · exact isWhole_append isWhole (areDigits_zeros _) (large zero)
    have read := readNumber_before value negative ends wide (by omega)
    simpa using read
  · have nonzero : decimal.digits ≠ 0 := fun zero => by
      have := plain zero
      have := single zero
      omega
    have read := @readNumber_between rest row decimal isWhole value negative ends
      (decimal.exponent + row.length - 1 + 1).toNat (by omega) (by omega) (large nonzero)
      (by omega)
    simpa using read
  · cases row with
    | nil => exact absurd rfl isWhole.nonempty
    | cons first others =>
        cases others with
        | nil =>
            have same : Decimal.mk (spelled [first])
                (decimal.exponent + [first].length - 1) = decimal := by
              simp [value]
            have read := readNumber_power negative isWhole
              (decimal.exponent + [first].length - 1) ends
            rwa [same] at read
        | cons second others =>
            have read := @readNumber_scientific rest first (second :: others) decimal isWhole
              (by simp) value negative ends
              (decimal.exponent + (first :: second :: others).length - 1) (by simp; omega)
            simpa using read

/-! Numbers, as they are written. -/

theorem readNumber_writeInteger {number : Int} (writable : Number.isWritable number = true)
    (ends : EndsNumber rest) :
    readNumber (Number.writeInteger number ++ rest) = .ok (.integer number, rest) := by
  have short : (writeNat number.natAbs).length ≤ Number.digitLimit := by
    simpa [Number.isWritable] using writable
  cases number with
  | ofNat number =>
      have read := readNumber_whole false (isWhole_writeNat number) ends short
      rwa [spelled_writeNat] at read
  | negSucc number =>
      have read := readNumber_whole true (isWhole_writeNat (number + 1)) ends short
      rwa [spelled_writeNat] at read

theorem shortest_plain {x : Double} (finite : x.isInfinite = false) :
    x.shortest.digits = 0 → x.shortest.exponent = 0 := by
  intro noDigits
  by_cases zero : x.isZero = true
  · rw [Double.shortest, if_pos zero]
  · have read := Double.toDouble_shortest finite
    rw [Decimal.toDouble, noDigits] at read
    have noMagnitude : x.magnitude = 0 := by rw [← read]; rfl
    simp [Double.isZero, noMagnitude] at zero

theorem write_eq {x : Double} (finite : x.isInfinite = false) :
    x.write = sign x.negative ++ Double.writeDecimal x.shortest := by
  unfold Double.write sign
  rw [finite]
  cases x.negative <;> rfl

theorem readNumber_write {x : Double} (finite : x.isInfinite = false) (ends : EndsNumber rest) :
    readNumber (x.write ++ rest) = .ok (.float x, rest) := by
  rw [write_eq finite, List.append_assoc,
    readNumber_writeDecimal x.negative (shortest_plain finite) ends,
    Double.toDouble_shortest finite]

/-! Telling numbers from words. -/

/-- A number begins with a minus sign or a digit. -/
theorem head_of_readNumber {text : Text} {result : Json × Text}
    (read : readNumber text = .ok result) :
    ∃ c others, text = c :: others ∧ (c = '-' ∨ c.isDigit = true) := by
  cases text with
  | nil => cases read
  | cons c others =>
      refine ⟨c, others, rfl, ?_⟩
      by_contra none
      rw [not_or, Bool.not_eq_true] at none
      have noDigits : digits (c :: others) = ([], c :: others) := by
        simp [digits, none.2]
      have noWhole : wholePart? (c :: others) = .none := by
        rw [wholePart?]
        · rw [noDigits]
        · rintro _ equal
          exact absurd none.2 (by rw [(List.cons.inj equal).1]; decide)
      rw [readNumber] at read
      · dsimp only at read
        rw [noWhole] at read
        cases read
      · rintro _ equal
        exact none.1 (List.cons.inj equal).1

/-- A word is at the front, or the text is read as a number. -/
theorem readScalar_cases (text : Text) :
    (∃ constant ∈ constants, ∃ others, text = constant.1 ++ others ∧
      readScalar text = .ok (constant.2, others)) ∨ readScalar text = readNumber text := by
  unfold readScalar
  split
  · rename_i word value found
    have start := List.find?_some found
    rcases List.isPrefixOf_iff_prefix.mp start with ⟨others, rfl⟩
    refine .inl ⟨(word, value), List.mem_of_find?_eq_some found, others, rfl, ?_⟩
    rw [List.drop_left]
  · exact .inr rfl

theorem readNumber_of_mem_constants (others : Text) : ∀ constant ∈ constants,
    readNumber (constant.1 ++ others) = .error (.malformed .value (constant.1 ++ others)) := by
  simp only [constants, List.forall_mem_cons]
  exact ⟨rfl, rfl, rfl, rfl, rfl, rfl, by simp⟩

theorem readScalar_of_readNumber {text : Text} {result : Json × Text}
    (read : readNumber text = .ok result) : readScalar text = .ok result := by
  rcases readScalar_cases text with ⟨constant, member, others, rfl, _⟩ | number
  · rw [readNumber_of_mem_constants others constant member] at read
    cases read
  · exact number.trans read

/-! What is written of a number can be seen, all of it. -/

theorem isPrintable_of_isDigit {c : Char} (digit : c.isDigit = true) : IsPrintable c := by
  have bounds := Number.bounds_of_isDigit digit
  exact ⟨by omega, by omega⟩

theorem AreDigits.printable {row : Text} (areDigits : AreDigits row) :
    ∀ c ∈ row, IsPrintable c :=
  fun c member => isPrintable_of_isDigit (areDigits c member)

theorem isPrintable_writeInteger (number : Int) :
    ∀ c ∈ Number.writeInteger number, IsPrintable c := by
  intro c member
  rcases Number.mem_writeInteger member with rfl | digit
  · decide
  · exact isPrintable_of_isDigit digit

theorem isPrintable_writePower (power : Int) : ∀ c ∈ Double.writePower power, IsPrintable c := by
  have digits := (areDigits_powerDigits power).printable
  have written : Double.writePower power =
      'e' :: (if power < 0 then '-' else '+') :: powerDigits power := rfl
  rw [written]
  simp only [List.forall_mem_cons]
  refine ⟨by decide, ?_, digits⟩
  split_ifs <;> decide

theorem isPrintable_writeDecimal (decimal : Decimal) :
    ∀ c ∈ Double.writeDecimal decimal, IsPrintable c := by
  have digits := (areDigits_writeNat decimal.digits).printable
  have zeros := fun count => (areDigits_zeros count).printable
  unfold Double.writeDecimal
  dsimp only
  generalize writeNat decimal.digits = row at digits ⊢
  split_ifs
  · exact List.forall_mem_append.mpr
      ⟨List.forall_mem_append.mpr ⟨Text.forall_mem_of_all rfl, zeros _⟩, digits⟩
  · exact List.forall_mem_append.mpr
      ⟨List.forall_mem_append.mpr ⟨digits, zeros _⟩, Text.forall_mem_of_all rfl⟩
  · refine List.forall_mem_append.mpr
      ⟨List.forall_mem_append.mpr ⟨?_, Text.forall_mem_of_all rfl⟩, ?_⟩
    · exact fun c member => digits c (List.mem_of_mem_take member)
    · exact fun c member => digits c (List.mem_of_mem_drop member)
  · have power := isPrintable_writePower (decimal.exponent + row.length - 1)
    split
    · exact List.forall_mem_cons.mpr ⟨digits _ (by simp), power⟩
    · rw [List.forall_mem_cons] at digits
      exact List.forall_mem_append.mpr
        ⟨List.forall_mem_cons.mpr ⟨digits.1, List.forall_mem_cons.mpr ⟨by decide, digits.2⟩⟩, power⟩
    · simp

theorem isPrintable_write {x : Double} (finite : x.isInfinite = false) :
    ∀ c ∈ x.write, IsPrintable c := by
  rw [write_eq finite]
  refine List.forall_mem_append.mpr ⟨?_, isPrintable_writeDecimal _⟩
  cases x.negative with
  | true => exact Text.forall_mem_of_all rfl
  | false => exact Text.forall_mem_of_all rfl

end RobotRules.Json
