import Mathlib.Data.List.TakeWhile
import RobotRules.Proofs.Json.RoundTrip
import RobotRules.Proofs.Result

/-! Reading JSON. Whatever a text is read as can be written: its integers are short enough, in its
strings no two halves make one character, and its objects have each name once. -/

namespace RobotRules.Json

/-! Numbers and words. -/

theorem areDigits_takeWhile (text : Text) : AreDigits (text.takeWhile Char.isDigit) :=
  fun _ => List.mem_takeWhile_imp

theorem areDigits_wholePart? {text whole rest : Text}
    (found : wholePart? text = some (whole, rest)) : AreDigits whole := by
  unfold wholePart? at found
  split at found
  · rcases Prod.mk.inj (Option.some.inj found) with ⟨rfl, _⟩
    exact areDigits_zeros 1
  · unfold digits at found
    split at found
    · cases found
    · rcases Prod.mk.inj (Option.some.inj found) with ⟨rfl, _⟩
      exact areDigits_takeWhile text

/-- An integer of so few digits can be written. -/
theorem isWritable_of_digits {whole : Text} (areDigits : AreDigits whole)
    (short : whole.length ≤ Number.digitLimit) {number : Int}
    (value : number.natAbs = spelled whole) : Number.isWritable number = true := by
  have power : 10 ^ whole.length ≤ 10 ^ Number.digitLimit :=
    Nat.pow_le_pow_right (by decide) short
  rw [Number.isWritable_iff, value]
  exact Nat.lt_of_lt_of_le (spelled_lt areDigits) power

theorem isWritable_readNumber {text rest : Text} {value : Json}
    (read : readNumber text = .ok (value, rest)) : IsWritable value := by
  unfold readNumber at read
  dsimp only at read
  split at read
  · cases read
  · rename_i whole afterWhole found
    by_cases plain : ((fractionPart afterWhole).1.isEmpty &&
        (powerPart (fractionPart afterWhole).2).1.isNone) = true
    · have noFraction : (fractionPart afterWhole).1 = [] := by simp_all
      rw [if_pos plain, noFraction, List.append_nil] at read
      by_cases long : whole.length > Number.digitLimit
      · rw [if_pos long] at read
        cases read
      · rw [if_neg long] at read
        rcases Prod.mk.inj (Except.ok.inj read) with ⟨rfl, _⟩
        refine .integer (isWritable_of_digits (areDigits_wholePart? found) (by omega) ?_)
        unfold spelled
        split_ifs
        · rw [Int.natAbs_neg, Int.natAbs_natCast]
        · rw [Int.natAbs_natCast]
    · rw [if_neg plain] at read
      rcases Prod.mk.inj (Except.ok.inj read) with ⟨rfl, _⟩
      exact .float _

theorem isWritable_of_mem_constants : ∀ constant ∈ constants, IsWritable constant.2 := by
  simp only [constants, List.forall_mem_cons]
  exact ⟨.null, .boolean _, .boolean _, .nan, .float _, .float _, by simp⟩

theorem isWritable_readScalar {text rest : Text} {value : Json}
    (read : readScalar text = .ok (value, rest)) : IsWritable value := by
  rcases readScalar_cases text with ⟨constant, member, others, _, word⟩ | number
  · rcases Prod.mk.inj (Except.ok.inj (word.symm.trans read)) with ⟨rfl, _⟩
    exact isWritable_of_mem_constants constant member
  · exact isWritable_readNumber (number.symm.trans read)

/-! Strings. -/

/-- How the text behind the quote that opens a string spells the code points of the string. The
escape of a high surrogate is one of them if no low one follows. -/
inductive Spells : Text → Points → Prop
  | done (rest : Text) : Spells ('"' :: rest) []
  | char {text rest : Text} {others : Points} (c : Char) : Spells rest others →
      Spells text (.char c :: others)
  | unit {rest : Text} {unit : Nat} {others : Points} : fourHex? rest = some unit →
      (Text.isHighSurrogate unit = true → lowSurrogate? (rest.drop 4) = .ok none) →
      Spells (rest.drop 4) others → Spells ('\\' :: 'u' :: rest) (.ofUnit unit :: others)

theorem spells_of_readString {start : Text} {fuel : Nat} {text rest : Text} {points : Points}
    (read : readString start fuel text = .ok (points, rest)) : Spells text points := by
  fun_induction readString start fuel text generalizing points rest with
  | case1 | case2 | case3 | case5 | case8 | case10 => cases read
  | case4 _ rest =>
      cases read
      exact .done rest
  | case6 =>
      rename_i spelled _ _ _ pair single
      rcases Result.bind_eq_ok_iff.mp read with ⟨low, alone, read⟩
      cases low with
      | some low =>
          rcases Result.bind_eq_ok_iff.mp read with ⟨others, othersRead, read⟩
          cases read
          exact .char _ (pair othersRead)
      | none =>
          rcases Result.bind_eq_ok_iff.mp read with ⟨others, othersRead, read⟩
          cases read
          exact .unit spelled (fun _ => alone) (single othersRead)
  | case7 =>
      rename_i spelled _ _ notHigh _ single
      rcases Result.bind_eq_ok_iff.mp read with ⟨low, isNone, read⟩
      cases isNone
      rcases Result.bind_eq_ok_iff.mp read with ⟨others, othersRead, read⟩
      cases read
      exact .unit spelled (fun isHigh => absurd isHigh notHigh) (single othersRead)
  | case9 _ _ _ _ _ _ next | case11 _ _ _ _ _ _ _ _ next =>
      rcases Result.bind_eq_ok_iff.mp read with ⟨others, othersRead, read⟩
      cases read
      exact .char _ (next othersRead)

theorem kind_of_ofUnit (unit : Nat) :
    (∃ offset, Point.ofUnit unit = .high offset ∧ Text.isHighSurrogate unit = true) ∨
      (∃ offset, Point.ofUnit unit = .low offset ∧ Text.isLowSurrogate unit = true) ∨
      ∃ c, Point.ofUnit unit = .char c := by
  unfold Point.ofUnit
  split_ifs with isHigh isLow
  · exact .inl ⟨_, rfl, isHigh⟩
  · exact .inr (.inl ⟨_, rfl, isLow⟩)
  · exact .inr (.inr ⟨_, rfl⟩)

theorem long_of_fourHex? {text : Text} {unit : Nat} (spelled : fourHex? text = some unit) :
    ¬text.length < 5 := by
  unfold fourHex? at spelled
  split at spelled
  · simp
  · cases spelled

/-- Where a string goes on with a low surrogate, one stands. -/
theorem Spells.exists_lowSurrogate? {text : Text} {offset : Fin 0x400} {others : Points}
    (spells : Spells text (.low offset :: others)) :
    ∃ unit, lowSurrogate? text = .ok (some unit) := by
  generalize equal : Point.low offset = point at spells
  cases spells with
  | char => cases equal
  | @unit _ unit _ spelled =>
      rcases kind_of_ofUnit unit with ⟨_, isHigh, _⟩ | ⟨_, _, isLow⟩ | ⟨_, isChar⟩
      · cases equal.trans isHigh
      · refine ⟨unit, ?_⟩
        rw [lowSurrogate?, if_neg (long_of_fourHex? spelled), spelled]
        dsimp only
        rw [isLow]
        rfl
      · cases equal.trans isChar

theorem Spells.isSettled {text : Text} {points : Points} (spells : Spells text points) :
    IsSettled points := by
  induction spells with
  | done => exact .nil
  | char c _ settled => exact settled.cons fun _ _ => trivial
  | @unit _ unit others _ alone next settled =>
      refine settled.cons fun point first => ?_
      rcases kind_of_ofUnit unit with ⟨_, isHigh, high⟩ | ⟨_, isLow, _⟩ | ⟨_, isChar⟩
      · cases point with
        | low offset =>
            rcases List.head?_eq_some_iff.mp first with ⟨behind, rfl⟩
            rcases next.exists_lowSurrogate? with ⟨low, found⟩
            cases (alone high).symm.trans found
        | char | high =>
            rw [isHigh]
            trivial
      · rw [isLow]
        trivial
      · rw [isChar]
        trivial

/-- In a string that was read no two code points make one character. -/
theorem isSettled_of_readString {start : Text} {fuel : Nat} {text rest : Text} {points : Points}
    (read : readString start fuel text = .ok (points, rest)) : IsSettled points :=
  (spells_of_readString read).isSettled

/-! Members. -/

section Members

variable {name : Points} {value : Json} {members : List (Points × Json)}

theorem mem_insert {member : Points × Json} (inserted : member ∈ insert name value members) :
    member ∈ members ∨ member = (name, value) := by
  induction members with
  | nil => exact .inr (List.mem_singleton.mp inserted)
  | cons first others induction =>
      rw [insert] at inserted
      split_ifs at inserted with same
      · rcases List.mem_cons.mp inserted with rfl | inOthers
        · exact .inr (Prod.ext same rfl)
        · exact .inl (List.mem_cons_of_mem _ inOthers)
      · rcases List.mem_cons.mp inserted with rfl | inRest
        · exact .inl List.mem_cons_self
        · exact (induction inRest).imp_left (List.mem_cons_of_mem _)

/-- An old name stays where it is. -/
theorem map_fst_insert (old : name ∈ members.map Prod.fst) :
    (insert name value members).map Prod.fst = members.map Prod.fst := by
  induction members with
  | nil => cases old
  | cons first others induction =>
      rw [insert]
      split_ifs with same
      · rfl
      · have inOthers := (List.mem_cons.mp old).resolve_left (Ne.symm same)
        exact congrArg (first.1 :: ·) (induction inOthers)

theorem HasNames.insert (names : HasNames members) (settled : IsSettled name) :
    HasNames (insert name value members) := by
  have allSettled : ∀ member ∈ Json.insert name value members, IsSettled member.1 := by
    intro member inserted
    rcases mem_insert inserted with old | rfl
    · exact names.settled member old
    · exact settled
  refine ⟨allSettled, ?_⟩
  by_cases old : name ∈ members.map Prod.fst
  · rw [map_fst_insert old]
    exact names.distinct
  · rw [insert_eq_append old, List.map_append]
    exact names.distinct.append (List.nodup_singleton _) (List.disjoint_singleton.mpr old)

theorem IsWritable.insert (writable : IsWritable (.object members)) (settled : IsSettled name)
    (valueWritable : IsWritable value) : IsWritable (.object (insert name value members)) := by
  cases writable with
  | object names each =>
      refine .object (names.insert settled) fun member inserted => ?_
      rcases mem_insert inserted with old | new
      · exact each member old
      · rw [new]
        exact valueWritable

end Members

/-! Lists and objects. -/

theorem isWritable_empty : IsWritable (.object []) :=
  .object ⟨by simp, by simp⟩ (by simp)

/-- What is read with some fuel can be written: a value, items, and members put to others. -/
structure ReadsWritable (fuel : Nat) : Prop where
  value : ∀ {text rest : Text} {value : Json}, readValue fuel text = .ok (value, rest) →
    IsWritable value
  items : ∀ {text rest : Text} {items : List Json}, readItems fuel text = .ok (items, rest) →
    ∀ item ∈ items, IsWritable item
  members : ∀ {before members : List (Points × Json)} {text rest : Text},
    IsWritable (.object before) → readMembers fuel before text = .ok (members, rest) →
      IsWritable (.object members)

namespace ReadsWritable

variable {fuel : Nat} (below : ReadsWritable fuel) {text rest : Text}

include below

theorem value_succ {value : Json} (read : readValue (fuel + 1) text = .ok (value, rest)) :
    IsWritable value := by
  rw [readValue.eq_def] at read
  dsimp only at read
  split at read
  · rcases Result.bind_eq_ok_iff.mp read with ⟨result, stringRead, read⟩
    cases read
    exact .string (isSettled_of_readString stringRead)
  · split at read
    · cases read
      exact .list fun item member => by cases member
    · rcases Result.bind_eq_ok_iff.mp read with ⟨result, itemsRead, read⟩
      cases read
      exact .list (below.items itemsRead)
  · split at read
    · cases read
      exact isWritable_empty
    · rcases Result.bind_eq_ok_iff.mp read with ⟨result, membersRead, read⟩
      cases read
      exact below.members isWritable_empty membersRead
  · exact isWritable_readScalar read

theorem items_succ {items : List Json} (read : readItems (fuel + 1) text = .ok (items, rest)) :
    ∀ item ∈ items, IsWritable item := by
  rw [readItems] at read
  rcases Result.bind_eq_ok_iff.mp read with ⟨first, itemRead, read⟩
  have firstWritable := below.value itemRead
  dsimp only at read
  split at read
  · cases read
    exact List.forall_mem_singleton.mpr firstWritable
  · rcases Result.bind_eq_ok_iff.mp read with ⟨others, othersRead, read⟩
    cases read
    exact List.forall_mem_cons.mpr ⟨firstWritable, below.items othersRead⟩
  · cases read

theorem members_succ {before members : List (Points × Json)}
    (writable : IsWritable (.object before))
    (read : readMembers (fuel + 1) before text = .ok (members, rest)) :
    IsWritable (.object members) := by
  rw [readMembers.eq_def] at read
  dsimp only at read
  split at read
  · rcases Result.bind_eq_ok_iff.mp read with ⟨name, nameRead, read⟩
    split at read
    · rcases Result.bind_eq_ok_iff.mp read with ⟨value, valueRead, read⟩
      have inserted : IsWritable (.object (insert name.1 value.1 before)) :=
        writable.insert (isSettled_of_readString nameRead) (below.value valueRead)
      split at read
      · cases read
        exact inserted
      · exact below.members inserted read
      · cases read
    · cases read
  · cases read

end ReadsWritable

/-- The three readers call each other with less fuel. -/
theorem readsWritable (fuel : Nat) : ReadsWritable fuel := by
  induction fuel with
  | zero =>
      refine ⟨fun read => ?_, fun read => ?_, fun _ read => ?_⟩
      · cases read
      · cases read
      · cases read
  | succ fuel below => exact ⟨below.value_succ, below.items_succ, below.members_succ⟩

/-- What is read can be written. -/
theorem isWritable_of_read {text : Text} {value : Json} (found : read text = .ok value) :
    IsWritable value := by
  unfold read at found
  split at found
  · cases found
  · rcases Result.bind_eq_ok_iff.mp found with ⟨result, valueRead, found⟩
    dsimp only at found
    split at found
    · cases found
      exact (readsWritable _).value valueRead
    · cases found

end RobotRules.Json
