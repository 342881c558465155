import RobotRules.Proofs.Json.Numbers
import RobotRules.Proofs.Nesting.Segments
import RobotRules.Proofs.Result

/-! Values of JSON. A value whose integers, strings and names can be written is read back from
what is written of it, in which all characters are visible but the line breaks. -/

namespace RobotRules.Json

/-! The values that can be written. -/

/-- The names are strings that can be written, and no two of them are equal. -/
structure HasNames (members : List (Points × Json)) : Prop where
  settled : ∀ member ∈ members, IsSettled member.1
  distinct : (members.map Prod.fst).Nodup

/-- The values that can be written and read back. -/
inductive IsWritable : Json → Prop
  | null : IsWritable .null
  | boolean (truth : Bool) : IsWritable (.boolean truth)
  | integer {number : Int} : Number.isWritable number = true → IsWritable (.integer number)
  | float (number : Double) : IsWritable (.float number)
  | nan : IsWritable .nan
  | string {points : Points} : IsSettled points → IsWritable (.string points)
  | list {items : List Json} : (∀ item ∈ items, IsWritable item) → IsWritable (.list items)
  | object {members : List (Points × Json)} : HasNames members →
      (∀ member ∈ members, IsWritable member.2) → IsWritable (.object members)

theorem isWritable_ofText (text : Text) : IsWritable (.ofText text) :=
  .string (isSettled_points text)

/-! Where a value begins. -/

theorem skipSpace_of_head {c : Char} (noSpace : isSpace c = false) (rest : Text) :
    skipSpace (c :: rest) = c :: rest :=
  List.dropWhile_cons_of_neg (by simp [noSpace])

theorem skipSpace_newLine (level : Nat) (rest : Text) :
    skipSpace (newLine level ++ rest) = skipSpace rest := by
  have blanks : ∀ c ∈ newLine level, isSpace c = true := by
    refine List.forall_mem_cons.mpr ⟨rfl, fun c member => ?_⟩
    rw [List.eq_of_mem_replicate member]
    rfl
  exact List.dropWhile_append_of_pos blanks

/-- The characters with which a value can begin are no spaces and no brackets that close. -/
def Begins (text : Text) : Prop :=
  ∃ c others, text = c :: others ∧ isSpace c = false ∧ c ≠ ']' ∧ c ≠ '\x7d'

theorem Begins.skipSpace {text : Text} (begins : Begins text) : skipSpace text = text := by
  rcases begins with ⟨c, others, rfl, noSpace, _⟩
  exact skipSpace_of_head noSpace others

theorem Begins.append {text : Text} (begins : Begins text) (rest : Text) :
    Begins (text ++ rest) := by
  rcases begins with ⟨c, others, rfl, first⟩
  exact ⟨c, others ++ rest, rfl, first⟩

theorem begins_of_isDigit {c : Char} (digit : c.isDigit = true) (others : Text) :
    Begins (c :: others) := by
  have differs : ∀ {d : Char}, d.isDigit = false → c ≠ d := by
    rintro d noDigit rfl
    rw [digit] at noDigit
    cases noDigit
  refine ⟨c, others, rfl, ?_, differs rfl, differs rfl⟩
  simp [isSpace, @differs ' ' rfl, @differs '\t' rfl, @differs '\n' rfl, @differs '\r' rfl]

theorem begins_of_mem_constants : ∀ constant ∈ constants, Begins constant.1 := by
  simp only [constants, List.forall_mem_cons]
  exact ⟨⟨_, _, rfl, by decide⟩, ⟨_, _, rfl, by decide⟩, ⟨_, _, rfl, by decide⟩,
    ⟨_, _, rfl, by decide⟩, ⟨_, _, rfl, by decide⟩, ⟨_, _, rfl, by decide⟩, by simp⟩

theorem begins_of_readScalar {text : Text} {result : Json × Text}
    (read : readScalar text = .ok result) : Begins text := by
  rcases readScalar_cases text with ⟨constant, member, others, rfl, _⟩ | number
  · exact (begins_of_mem_constants constant member).append others
  · rcases head_of_readNumber (number.symm.trans read) with ⟨c, others, rfl, rfl | digit⟩
    · exact ⟨_, _, rfl, by decide⟩
    · exact begins_of_isDigit digit others

theorem begins_of_readValue {fuel : Nat} {text : Text} {result : Json × Text}
    (read : readValue fuel text = .ok result) : Begins text := by
  cases fuel with
  | zero => cases read
  | succ fuel =>
      rw [readValue.eq_def] at read
      dsimp only at read
      split at read
      · exact ⟨_, _, rfl, by decide⟩
      · exact ⟨_, _, rfl, by decide⟩
      · exact ⟨_, _, rfl, by decide⟩
      · exact begins_of_readScalar read

/-! Scalars. -/

/-- What is read as a word or a number is read as such a value. -/
theorem readValue_of_readScalar {text : Text} {result : Json × Text}
    (read : readScalar text = .ok result) (fuel : Nat) :
    readValue (fuel + 1) text = .ok result := by
  rw [readValue.eq_def]
  dsimp only
  split
  · cases read
  · cases read
  · cases read
  · exact read

/-- A value is read back from what is written of it, whatever may follow a number. -/
def ReadsBack (value : Json) : Prop :=
  ∀ (level : Nat) {fuel : Nat} {rest : Text}, EndsNumber rest →
    2 * (writeAt level value).length ≤ fuel →
    readValue fuel (writeAt level value ++ rest) = .ok (value, rest)

theorem ReadsBack.begins {value : Json} (readsBack : ReadsBack value) (level : Nat) :
    Begins (writeAt level value) := by
  have read := readsBack level endsNumber_nil (Nat.le_refl _)
  rw [List.append_nil] at read
  exact begins_of_readValue read

theorem readsBack_of_readScalar {value : Json}
    (scalar : ∀ level, writeAt level value = writeScalar value)
    (read : ∀ {rest : Text}, EndsNumber rest →
      readScalar (writeScalar value ++ rest) = .ok (value, rest)) : ReadsBack value := by
  intro level fuel rest ends enough
  rw [scalar] at enough ⊢
  have alone := read endsNumber_nil
  rcases begins_of_readScalar alone with ⟨c, others, equal, _⟩
  rw [List.append_nil] at equal
  cases fuel with
  | zero =>
      rw [equal] at enough
      simp at enough
  | succ fuel => exact readValue_of_readScalar (read ends) fuel

theorem readsBack_null : ReadsBack .null :=
  readsBack_of_readScalar (fun _ => rfl) fun _ => rfl

theorem readsBack_boolean (truth : Bool) : ReadsBack (.boolean truth) := by
  cases truth with
  | true => exact readsBack_of_readScalar (fun _ => rfl) fun _ => rfl
  | false => exact readsBack_of_readScalar (fun _ => rfl) fun _ => rfl

theorem readsBack_nan : ReadsBack .nan :=
  readsBack_of_readScalar (fun _ => rfl) fun _ => rfl

theorem readsBack_integer {number : Int} (writable : Number.isWritable number = true) :
    ReadsBack (.integer number) :=
  readsBack_of_readScalar (fun _ => rfl) fun ends =>
    readScalar_of_readNumber (readNumber_writeInteger writable ends)

theorem readsBack_float (number : Double) : ReadsBack (.float number) := by
  refine readsBack_of_readScalar (fun _ => rfl) fun {rest} ends => ?_
  by_cases infinite : number.isInfinite = true
  · have magnitude : number.magnitude = Double.infinite := by
      simpa [Double.isInfinite] using infinite
    have itself : number = .ofMagnitude number.negative Double.infinite := by
      rw [← magnitude, Double.ofMagnitude_magnitude]
    rw [writeScalar, if_pos infinite, itself]
    cases number.negative with
    | true => rfl
    | false => rfl
  · rw [writeScalar, if_neg infinite]
    exact readScalar_of_readNumber (readNumber_write (by simpa using infinite) ends)

theorem writeString_append (points : Points) (rest : Text) : writeString points ++ rest =
    '"' :: (points.flatMap writePoint ++ '"' :: rest) := by
  simp [writeString]

theorem readsBack_string {points : Points} (settled : IsSettled points) :
    ReadsBack (.string points) := by
  intro level fuel rest ends enough
  have written : writeAt level (.string points) = writeString points := rfl
  rw [written] at enough ⊢
  cases fuel with
  | zero => simp [writeString] at enough
  | succ fuel =>
      rw [writeString_append, readValue, readString_written _ _ settled]
      rfl

/-! Lists and objects. -/

def separator (level : Nat) : Text := ',' :: newLine level

/-- Parts on lines of their own, as they stand between two brackets. -/
def inLines (level : Nat) (parts : List Text) : Text := Text.join (separator level) parts

theorem inLines_singleton (level : Nat) (part : Text) : inLines level [part] = part :=
  Nesting.join_singleton _ part

theorem inLines_cons_cons (level : Nat) (part next : Text) (others : List Text) :
    inLines level (part :: next :: others) =
      part ++ (separator level ++ inLines level (next :: others)) := by
  unfold inLines
  rw [Nesting.join_cons_cons, List.append_assoc]

theorem endsNumber_newLine (level : Nat) (rest : Text) : EndsNumber (newLine level ++ rest) := by
  intro c first
  obtain rfl : '\n' = c := Option.some.inj first
  decide

theorem endsNumber_separator (level : Nat) (rest : Text) :
    EndsNumber (separator level ++ rest) := by
  intro c first
  obtain rfl : ',' = c := Option.some.inj first
  decide

theorem begins_inLines (level : Nat) {part : Text} (begins : Begins part) (others : List Text) :
    Begins (inLines level (part :: others)) := by
  cases others with
  | nil => rwa [inLines_singleton]
  | cons next others =>
      rw [inLines_cons_cons]
      exact begins.append _

theorem skipSpace_separator {text : Text} (begins : Begins text) (level : Nat) (rest : Text) :
    skipSpace (separator level ++ (text ++ rest)) = ',' :: (newLine level ++ (text ++ rest)) ∧
      skipSpace (newLine level ++ (text ++ rest)) = text ++ rest :=
  ⟨skipSpace_of_head rfl _, (skipSpace_newLine _ _).trans (begins.append rest).skipSpace⟩

section Items

variable {item : Json} {items : List Json} {fuel : Nat}

theorem readItems_last (itself : ReadsBack item) (level : Nat)
    (enough : 2 * (writeAt (level + 1) item).length ≤ fuel) (rest : Text) :
    readItems (fuel + 1) (writeAt (level + 1) item ++ (newLine level ++ ']' :: rest)) =
      .ok ([item], rest) := by
  rw [readItems, itself (level + 1) (endsNumber_newLine level _) enough]
  dsimp only [bind, Except.bind]
  rw [skipSpace_newLine, skipSpace_of_head rfl]
  rfl

theorem readItems_cons (itself : ReadsBack item) (level : Nat)
    (enough : 2 * (writeAt level item).length ≤ fuel) {others rest : Text}
    (begins : Begins others) {result : List Json × Text}
    (read : readItems fuel (others ++ rest) = .ok result) :
    readItems (fuel + 1) (writeAt level item ++ (separator level ++ (others ++ rest))) =
      .ok (item :: result.1, result.2) := by
  have spaces := skipSpace_separator begins level rest
  rw [readItems, itself level (endsNumber_separator level _) enough]
  dsimp only [bind, Except.bind]
  rw [spaces.1]
  simp only [spaces.2, read]
  rfl

theorem readItems_written (nonempty : items ≠ []) (each : ∀ item ∈ items, ReadsBack item)
    (level : Nat) (rest : Text)
    (enough : 2 * (inLines (level + 1) (writeItems (level + 1) items)).length < fuel) :
    readItems fuel (inLines (level + 1) (writeItems (level + 1) items) ++
      (newLine level ++ ']' :: rest)) = .ok (items, rest) := by
  -- an item costs one unit of fuel, and its text counts for two at least
  induction items generalizing fuel with
  | nil => exact absurd rfl nonempty
  | cons item others induction =>
      have itself := each item (by simp)
      cases fuel with
      | zero => cases enough
      | succ fuel =>
          cases others with
          | nil =>
              rw [writeItems, writeItems, inLines_singleton] at enough ⊢
              exact readItems_last itself level (Nat.le_of_lt_succ enough) rest
          | cons next others =>
              have row : inLines (level + 1) (writeItems (level + 1) (item :: next :: others)) =
                  writeAt (level + 1) item ++ (separator (level + 1) ++
                    inLines (level + 1) (writeItems (level + 1) (next :: others))) :=
                inLines_cons_cons _ _ _ _
              have begins : Begins (inLines (level + 1)
                  (writeItems (level + 1) (next :: others))) :=
                begins_inLines _ ((each next (by simp)).begins _) _
              rw [row] at enough ⊢
              simp only [List.length_append, separator, List.length_cons] at enough
              have read := @induction fuel (by simp)
                (fun other member => each other (List.mem_cons_of_mem _ member)) (by omega)
              rw [List.append_assoc, List.append_assoc]
              exact readItems_cons itself (level + 1) (by omega) begins read

end Items

theorem writeItems_ne_nil {items : List Json} (nonempty : items ≠ []) (level : Nat) :
    writeItems level items ≠ [] := by
  cases items with
  | nil => exact absurd rfl nonempty
  | cons item others => simp [writeItems]

theorem writeBlock_of_nonempty (opening closing : Char) (level : Nat) {parts : List Text}
    (nonempty : parts ≠ []) (rest : Text) : writeBlock opening closing level parts ++ rest =
      opening :: (newLine (level + 1) ++ (inLines (level + 1) parts ++
        (newLine level ++ closing :: rest))) := by
  have filled : parts.isEmpty = false := by simpa using nonempty
  rw [writeBlock, filled]
  simp [inLines, separator]

theorem readValue_list {text : Text} (begins : Begins text) (fuel level : Nat)
    {result : List Json × Text} (read : readItems fuel text = .ok result) :
    readValue (fuel + 1) ('[' :: (newLine level ++ text)) = .ok (.list result.1, result.2) := by
  rw [readValue, skipSpace_newLine, begins.skipSpace]
  rcases begins with ⟨c, others, rfl, _, notBracket, _⟩
  split
  · rename_i equal
    exact absurd (List.cons.inj equal).1 notBracket
  · rw [read]
    rfl

theorem readsBack_list {items : List Json} (each : ∀ item ∈ items, ReadsBack item) :
    ReadsBack (.list items) := by
  intro level fuel rest ends enough
  rw [writeAt] at enough ⊢
  cases items with
  | nil =>
      cases fuel with
      | zero => simp [writeItems, writeBlock] at enough
      | succ fuel => rfl
  | cons item others =>
      have filled := writeItems_ne_nil (List.cons_ne_nil item others) (level + 1)
      have begins : Begins (inLines (level + 1) (writeItems (level + 1) (item :: others))) :=
        begins_inLines _ ((each item (by simp)).begins _) _
      have block := fun rest => writeBlock_of_nonempty '[' ']' level filled rest
      have length := congrArg List.length (block [])
      simp only [List.append_nil, List.length_cons, List.length_append] at length
      cases fuel with
      | zero => omega
      | succ fuel =>
          have read := readItems_written (List.cons_ne_nil item others) each level rest
            (show _ < fuel by omega)
          rw [block]
          exact readValue_list (begins.append _) fuel (level + 1) read

/-! Members. -/

section Members

variable {name : Points} {value : Json} {members before : List (Points × Json)} {fuel : Nat}

/-- A member as it is written. -/
def writeMember (level : Nat) (name : Points) (value : Json) : Text :=
  writeString name ++ ": " ++ writeAt level value

theorem begins_writeMember (level : Nat) (name : Points) (value : Json) :
    Begins (writeMember level name value) :=
  ⟨'"', _, rfl, by decide⟩

theorem insert_eq_append (fresh : name ∉ before.map Prod.fst) :
    insert name value before = before ++ [(name, value)] := by
  induction before with
  | nil => rfl
  | cons member rest induction =>
      simp only [List.map_cons, List.mem_cons, not_or] at fresh
      rw [insert, if_neg (Ne.symm fresh.1), induction fresh.2]
      rfl

theorem readMembers_eq (settled : IsSettled name) (itself : ReadsBack value) (level : Nat)
    (enough : 2 * (writeAt level value).length ≤ fuel) {rest : Text} (ends : EndsNumber rest)
    (fresh : name ∉ before.map Prod.fst) :
    readMembers (fuel + 1) before (writeMember level name value ++ rest) =
      match skipSpace rest with
      | '\x7d' :: rest => .ok (before ++ [(name, value)], rest)
      | ',' :: rest => readMembers fuel (before ++ [(name, value)]) (skipSpace rest)
      | rest => .error (.malformed .comma rest) := by
  have written : writeMember level name value ++ rest = '"' ::
      (name.flatMap writePoint ++ '"' :: ':' :: ' ' :: (writeAt level value ++ rest)) := by
    simp [writeMember, writeString]
  have spaces : skipSpace (' ' :: (writeAt level value ++ rest)) = writeAt level value ++ rest :=
    ((itself.begins level).append rest).skipSpace
  rw [written, readMembers, readString_written _ _ settled]
  dsimp only [bind, Except.bind]
  rw [skipSpace_of_head rfl]
  simp only [spaces, itself level ends enough, insert_eq_append fresh]
  rfl

theorem HasNames.fresh {member : Points × Json}
    (names : HasNames (before ++ member :: members)) : member.1 ∉ before.map Prod.fst := by
  have distinct := names.distinct
  rw [List.map_append, List.map_cons, List.nodup_append] at distinct
  exact fun member => distinct.2.2 _ member _ List.mem_cons_self rfl

theorem readMembers_written (nonempty : members ≠ [])
    (each : ∀ member ∈ members, ReadsBack member.2) (names : HasNames (before ++ members))
    (level : Nat) (rest : Text)
    (enough : 2 * (inLines (level + 1) (writeMembers (level + 1) members)).length < fuel) :
    readMembers fuel before (inLines (level + 1) (writeMembers (level + 1) members) ++
      (newLine level ++ '\x7d' :: rest)) = .ok (before ++ members, rest) := by
  -- what was read moves to `before`, in which the names that are left do not occur
  induction members generalizing fuel before with
  | nil => exact absurd rfl nonempty
  | cons member others induction =>
      rcases member with ⟨name, value⟩
      have itself : ReadsBack value := each (name, value) (by simp)
      have fresh := names.fresh
      have settled : IsSettled name := names.settled (name, value) (by simp)
      cases fuel with
      | zero => cases enough
      | succ fuel =>
          cases others with
          | nil =>
              have row : inLines (level + 1) (writeMembers (level + 1) [(name, value)]) =
                  writeMember (level + 1) name value := inLines_singleton _ _
              rw [row] at enough ⊢
              simp only [writeMember, List.length_append] at enough
              rw [readMembers_eq settled itself (level + 1) (by omega)
                (endsNumber_newLine level _) fresh, skipSpace_newLine, skipSpace_of_head rfl]
              rfl
          | cons next others =>
              have row : inLines (level + 1)
                  (writeMembers (level + 1) ((name, value) :: next :: others)) =
                  writeMember (level + 1) name value ++ (separator (level + 1) ++
                    inLines (level + 1) (writeMembers (level + 1) (next :: others))) :=
                inLines_cons_cons _ _ _ _
              rw [row] at enough ⊢
              simp only [writeMember, List.length_append, separator, List.length_cons] at enough
              have read := @induction (before ++ [(name, value)]) fuel (by simp)
                (fun other member => each other (List.mem_cons_of_mem _ member))
                (by simpa using names) (by omega)
              have begins : Begins (inLines (level + 1)
                  (writeMembers (level + 1) (next :: others))) :=
                begins_inLines _ (begins_writeMember _ next.1 next.2) _
              have spaces := skipSpace_separator begins (level + 1)
                (newLine level ++ '\x7d' :: rest)
              rw [List.append_assoc, List.append_assoc, readMembers_eq settled itself (level + 1)
                (by omega) (endsNumber_separator (level + 1) _) fresh, spaces.1]
              simp only [spaces.2, read, List.append_assoc, List.singleton_append]

theorem readValue_object {text : Text} (begins : Begins text) (fuel level : Nat)
    {result : List (Points × Json) × Text} (read : readMembers fuel [] text = .ok result) :
    readValue (fuel + 1) ('\x7b' :: (newLine level ++ text)) =
      .ok (.object result.1, result.2) := by
  rw [readValue, skipSpace_newLine, begins.skipSpace]
  rcases begins with ⟨c, others, rfl, _, _, notBrace⟩
  split
  · rename_i equal
    exact absurd (List.cons.inj equal).1 notBrace
  · rw [read]
    rfl

theorem readsBack_object (names : HasNames members)
    (each : ∀ member ∈ members, ReadsBack member.2) : ReadsBack (.object members) := by
  intro level fuel rest ends enough
  rw [writeAt] at enough ⊢
  cases members with
  | nil =>
      cases fuel with
      | zero => simp [writeMembers, writeBlock] at enough
      | succ fuel => rfl
  | cons member others =>
      have filled : writeMembers (level + 1) (member :: others) ≠ [] := by simp [writeMembers]
      have begins : Begins (inLines (level + 1) (writeMembers (level + 1) (member :: others))) :=
        begins_inLines _ (begins_writeMember _ member.1 member.2) _
      have block := fun rest => writeBlock_of_nonempty '\x7b' '\x7d' level filled rest
      have length := congrArg List.length (block [])
      simp only [List.append_nil, List.length_cons, List.length_append] at length
      cases fuel with
      | zero => omega
      | succ fuel =>
          have read := @readMembers_written (member :: others) [] fuel (by simp) each names level
            rest (by omega)
          rw [block]
          exact readValue_object (begins.append _) fuel (level + 1) read

end Members

/-- Whatever can be written is read back. -/
theorem readsBack_of_isWritable {value : Json} (writable : IsWritable value) :
    ReadsBack value := by
  induction writable with
  | null => exact readsBack_null
  | boolean truth => exact readsBack_boolean truth
  | integer writable => exact readsBack_integer writable
  | float number => exact readsBack_float number
  | nan => exact readsBack_nan
  | string settled => exact readsBack_string settled
  | list _ each => exact readsBack_list each
  | object names _ each => exact readsBack_object names each

/-! The characters that are written. -/

/-- The characters of a written value. -/
def IsPlain (c : Char) : Prop := c = '\n' ∨ IsPrintable c

theorem isPlain_newLine (level : Nat) : ∀ c ∈ newLine level, IsPlain c := by
  refine List.forall_mem_cons.mpr ⟨.inl rfl, fun c member => .inr ?_⟩
  rw [List.eq_of_mem_replicate member]
  decide

theorem isPlain_writeBlock {opening closing : Char} (brackets : IsPlain opening ∧ IsPlain closing)
    (level : Nat) {parts : List Text} (each : ∀ part ∈ parts, ∀ c ∈ part, IsPlain c) :
    ∀ c ∈ writeBlock opening closing level parts, IsPlain c := by
  have separated : ∀ c ∈ ',' :: newLine (level + 1), IsPlain c :=
    List.forall_mem_cons.mpr ⟨.inr (by decide), isPlain_newLine _⟩
  unfold writeBlock
  split_ifs
  · simpa using brackets
  · simp only [List.forall_mem_append, List.forall_mem_singleton]
    exact ⟨⟨⟨⟨brackets.1, isPlain_newLine _⟩, Nesting.forall_mem_join separated each⟩,
      isPlain_newLine _⟩, brackets.2⟩

theorem isPrintable_writeString (points : Points) : ∀ c ∈ writeString points, IsPrintable c := by
  simp only [writeString, List.forall_mem_append, List.forall_mem_singleton]
  refine ⟨⟨by decide, fun c member => ?_⟩, by decide⟩
  rcases List.mem_flatMap.mp member with ⟨point, _, written⟩
  exact isPrintable_writePoint point c written

theorem isPrintable_writeScalar (value : Json) : ∀ c ∈ writeScalar value, IsPrintable c := by
  unfold writeScalar
  split
  · exact Text.forall_mem_of_all rfl
  · exact Text.forall_mem_of_all rfl
  · exact isPrintable_writeInteger _
  · split_ifs with infinite negative
    · exact Text.forall_mem_of_all rfl
    · exact Text.forall_mem_of_all rfl
    · exact isPrintable_write (by simpa using infinite)
  · exact Text.forall_mem_of_all rfl
  · exact isPrintable_writeString _
  · exact Text.forall_mem_of_all rfl

mutual
theorem isPlain_writeAt : ∀ (level : Nat) (value : Json), ∀ c ∈ writeAt level value, IsPlain c
  | level, .list items => by
      rw [writeAt]
      exact isPlain_writeBlock ⟨.inr (by decide), .inr (by decide)⟩ level
        (isPlain_writeItems (level + 1) items)
  | level, .object members => by
      rw [writeAt]
      exact isPlain_writeBlock ⟨.inr (by decide), .inr (by decide)⟩ level
        (isPlain_writeMembers (level + 1) members)
  | level, .null | level, .boolean _ | level, .integer _ | level, .float _ | level, .nan
  | level, .string _ => by
      intro c member
      simp only [writeAt] at member
      exact .inr (isPrintable_writeScalar _ c member)

theorem isPlain_writeItems : ∀ (level : Nat) (items : List Json),
    ∀ part ∈ writeItems level items, ∀ c ∈ part, IsPlain c
  | _, [] => fun part member => by cases member
  | level, item :: others => List.forall_mem_cons.mpr
      ⟨isPlain_writeAt level item, isPlain_writeItems level others⟩

theorem isPlain_writeMembers : ∀ (level : Nat) (members : List (Points × Json)),
    ∀ part ∈ writeMembers level members, ∀ c ∈ part, IsPlain c
  | _, [] => fun part member => by cases member
  | level, (name, value) :: others => List.forall_mem_cons.mpr
      ⟨List.forall_mem_append.mpr ⟨fun c member => .inr (List.forall_mem_append.mpr
          ⟨isPrintable_writeString name, Text.forall_mem_of_all rfl⟩ c member),
        isPlain_writeAt level value⟩, isPlain_writeMembers level others⟩
end

theorem isPlain_write (value : Json) : ∀ c ∈ write value, IsPlain c := isPlain_writeAt 0 value

/-- What is written of a value is read as that value. -/
theorem read_write {value : Json} (writable : IsWritable value) :
    read (write value) = .ok value := by
  have readsBack := readsBack_of_isWritable writable
  have begins : Begins (write value) := readsBack.begins 0
  have whole : readValue (2 * (write value).length + 2) (write value) = .ok (value, []) := by
    have read := readsBack 0 endsNumber_nil (Nat.le_add_right (2 * (write value).length) 2)
    rwa [List.append_nil] at read
  rw [read]
  · dsimp only
    rw [begins.skipSpace, whole]
    rfl
  · intro rest equal
    have plain := isPlain_write value '\ufeff' (by simp [equal])
    revert plain
    unfold IsPlain
    decide

end RobotRules.Json
