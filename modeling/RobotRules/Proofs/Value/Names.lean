import RobotRules.Proofs.Double
import RobotRules.Value.Named

/-! Names of parameters. Two names are the same if they have the same plain form, in which
booleans and whole floats are written as integers. So sameness is an equivalence between
names, and what is filed under a name is found under every name that is the same. -/

namespace RobotRules

namespace Value

mutual
/-- The form of a name in which a number that is an integer is written as one. -/
def plain : Value → Value
  | .boolean truth => .integer truth.toInt
  | .float number =>
    match number.toInt? with
    | some whole => .integer whole
    | none => .float number
  | .tuple items => .tuple (plainAll items)
  | value => value

def plainAll : List Value → List Value
  | [] => []
  | item :: rest => plain item :: plainAll rest
end

theorem plain_float_of_some {number : Double} {whole : Int}
    (found : number.toInt? = some whole) : plain (.float number) = .integer whole := by
  rw [plain, found]

theorem plain_float_of_none {number : Double} (missing : number.toInt? = none) :
    plain (.float number) = .float number := by
  rw [plain, missing]

theorem same_float_iff (left right : Double) :
    left.same right = true ↔ plain (.float left) = plain (.float right) := by
  cases found : left.toInt? with
  | none =>
      rw [Double.same_iff_eq_of_toInt? found, plain_float_of_none found]
      cases found' : right.toInt? with
      | none => rw [plain_float_of_none found', Value.float.injEq]
      | some whole =>
          rw [plain_float_of_some found']
          refine ⟨fun equal => ?_, fun equal => nomatch equal⟩
          rw [equal, found'] at found
          cases found
  | some whole =>
      rw [plain_float_of_some found]
      cases found' : right.toInt? with
      | none =>
          rw [plain_float_of_none found']
          refine ⟨fun same => ?_, fun equal => nomatch equal⟩
          rw [Double.toInt?_eq_of_same same, found'] at found
          cases found
      | some whole' =>
          rw [plain_float_of_some found', Value.integer.injEq]
          constructor
          · intro same
            have values := Double.toInt?_eq_of_same same
            rw [found, found'] at values
            exact Option.some.inj values
          · exact fun equal => Double.same_of_toInt? found (equal ▸ found')

theorem toInt?_eq_iff_plain (number : Double) (whole : Int) :
    (number.toInt? == some whole) = true ↔ plain (.float number) = .integer whole := by
  rw [beq_iff_eq]
  cases found : number.toInt? with
  | none => simp [plain_float_of_none found]
  | some value => simp [plain_float_of_some found]

/-- A number is written as a number. -/
theorem plain_float_ne {number : Double} {value : Value}
    (notInteger : ∀ whole, value ≠ .integer whole)
    (notFloat : ∀ number, value ≠ .float number) : plain (.float number) ≠ value := by
  cases found : number.toInt? with
  | none =>
      rw [plain_float_of_none found]
      exact (notFloat number).symm
  | some whole =>
      rw [plain_float_of_some found]
      exact (notInteger whole).symm

/-- Names without items. -/
theorem sameScalar_iff_plain_eq {left right : Value} (notTuple : ∀ items, left ≠ .tuple items)
    (name : left.isName = true) (name' : right.isName = true) :
    left.sameScalar right = true ↔ plain left = plain right := by
  cases left with
  | list | dict => cases name
  | tuple items => exact absurd rfl (notTuple items)
  | boolean truth =>
      cases right with
      | float number => exact (toInt?_eq_iff_plain number truth.toInt).trans eq_comm
      | boolean truth' => cases truth <;> cases truth' <;> simp [sameScalar, plain]
      | list | dict => cases name'
      | _ => simp [sameScalar, plain]
  | integer whole =>
      cases right with
      | float number => exact (toInt?_eq_iff_plain number whole).trans eq_comm
      | list | dict => cases name'
      | _ => simp [sameScalar, plain]
  | float number =>
      cases right with
      | float number' => exact same_float_iff number number'
      | boolean truth => exact toInt?_eq_iff_plain number truth.toInt
      | integer whole => exact toInt?_eq_iff_plain number whole
      | list | dict => cases name'
      | _ =>
          exact iff_of_false Bool.false_ne_true
            (plain_float_ne (by simp [plain]) (by simp [plain]))
  | absent | nan | text =>
      cases right with
      | float number =>
          exact iff_of_false Bool.false_ne_true
            (plain_float_ne (by simp [plain]) (by simp [plain])).symm
      | list | dict => cases name'
      | _ => simp [sameScalar, plain]

theorem same_eq_sameScalar {left : Value} (notTuple : ∀ items, left ≠ .tuple items)
    (name : left.isName = true) (right : Value) : left.same right = left.sameScalar right := by
  cases left with
  | list | dict => cases name
  | tuple items => exact absurd rfl (notTuple items)
  | _ => cases right <;> rfl

mutual
/-- Names are the same if and only if their plain forms are equal. -/
theorem same_iff_plain_eq : ∀ {left right : Value}, left.isName = true →
    right.isName = true → (left.same right = true ↔ plain left = plain right)
  | .tuple lefts, .tuple rights, names, names' => by
      rw [same, plain, plain, Value.tuple.injEq]
      exact sameItems_iff_plainAll_eq names names'
  | .tuple lefts, .float number, _, _ =>
      iff_of_false Bool.false_ne_true (plain_float_ne (by simp [plain]) (by simp [plain])).symm
  | .tuple _, .absent, _, _ | .tuple _, .boolean _, _, _ | .tuple _, .integer _, _, _
  | .tuple _, .nan _, _, _ | .tuple _, .text _, _, _ => by
      simp [same, sameScalar, plain]
  | .absent, _, name, name' | .boolean _, _, name, name' | .integer _, _, name, name'
  | .float _, _, name, name' | .nan _, _, name, name' | .text _, _, name, name' => by
      rw [same_eq_sameScalar (by simp) name]
      exact sameScalar_iff_plain_eq (by simp) name name'

theorem sameItems_iff_plainAll_eq : ∀ {lefts rights : List Value},
    areNames lefts = true → areNames rights = true →
    (sameItems lefts rights = true ↔ plainAll lefts = plainAll rights)
  | [], [], _, _ => by simp [sameItems, plainAll]
  | [], _ :: _, _, _ => by simp [sameItems, plainAll]
  | _ :: _, [], _, _ => by simp [sameItems, plainAll]
  | left :: lefts, right :: rights, names, names' => by
      rw [areNames, Bool.and_eq_true] at names names'
      rw [sameItems, plainAll, plainAll, Bool.and_eq_true, List.cons_eq_cons,
        same_iff_plain_eq names.1 names'.1, sameItems_iff_plainAll_eq names.2 names'.2]
end

theorem same_self {name : Value} (isName : name.isName = true) : name.same name = true :=
  (same_iff_plain_eq isName isName).mpr rfl

mutual
/-- Only names are the same as a name. -/
theorem isName_of_same : ∀ {left right : Value}, left.same right = true →
    right.isName = true → left.isName = true
  | .tuple lefts, .tuple rights, alike, names => by
      rw [same] at alike
      exact areNames_of_sameItems alike names
  | .list _, right, alike, name | .dict _, right, alike, name => by
      cases right with
      | list | dict => cases name
      | _ => cases alike
  | .tuple _, .absent, alike, _ | .tuple _, .boolean _, alike, _ | .tuple _, .integer _, alike, _
  | .tuple _, .float _, alike, _ | .tuple _, .nan _, alike, _ | .tuple _, .text _, alike, _
  | .tuple _, .list _, alike, _ | .tuple _, .dict _, alike, _ => by cases alike
  | .absent, _, _, _ | .boolean _, _, _, _ | .integer _, _, _, _ | .float _, _, _, _
  | .nan _, _, _, _ | .text _, _, _, _ => rfl

theorem areNames_of_sameItems : ∀ {lefts rights : List Value}, sameItems lefts rights = true →
    areNames rights = true → areNames lefts = true
  | [], _, _, _ => rfl
  | _ :: _, [], alike, _ => by cases alike
  | left :: lefts, right :: rights, alike, names => by
      rw [sameItems, Bool.and_eq_true] at alike
      rw [areNames, Bool.and_eq_true] at names ⊢
      exact ⟨isName_of_same alike.1 names.1, areNames_of_sameItems alike.2 names.2⟩
end

/-- A text is the same as itself alone. -/
theorem same_text_iff {value : Value} {text : Text} :
    value.same (.text text) = true ↔ value = .text text := by
  cases value <;> simp [same, sameScalar]

theorem text_same_iff {value : Value} {text : Text} :
    (Value.text text).same value = true ↔ value = .text text := by
  cases value with
  | text characters => simpa [same, sameScalar] using eq_comm
  | _ => simp [same, sameScalar]

end Value

namespace Named

variable {α : Type}

/-- What is found is filed under some name. -/
theorem exists_mem_of_find? {name : Value} {thing : α} {named : Named α}
    (found : find? name named = some thing) : ∃ other, (other, thing) ∈ named := by
  induction named with
  | nil => cases found
  | cons entry rest induction =>
      rw [find?] at found
      split_ifs at found
      · obtain rfl := Option.some.inj found
        exact ⟨entry.1, by simp⟩
      · rcases induction found with ⟨other, member⟩
        exact ⟨other, List.mem_cons_of_mem _ member⟩

/-- What holds of a thing and of all that is filed already holds when the thing is filed. -/
theorem forall_insert (kept : α → Prop) {name : Value} {thing : α} {named : Named α}
    (all : ∀ entry ∈ named, kept entry.2) (new : kept thing) :
    ∀ entry ∈ insert name thing named, kept entry.2 := by
  induction named with
  | nil => simpa [insert] using new
  | cons entry rest induction =>
      have others : ∀ entry ∈ rest, kept entry.2 := fun other member =>
        all other (List.mem_cons_of_mem _ member)
      rw [insert]
      split_ifs
      · exact List.forall_mem_cons.mpr ⟨new, others⟩
      · exact List.forall_mem_cons.mpr ⟨all entry (by simp), induction others⟩

/-- Things are filed under names only. -/
def UnderNames (named : Named α) : Prop := ∀ entry ∈ named, entry.1.isName = true

section Insert

variable {name other : Value} {thing : α} {named : Named α}

theorem find?_insert_of_same
    (alike : ∀ entry ∈ named, entry.1.same name = entry.1.same other)
    (same : name.same other = true) :
    find? other (insert name thing named) = some thing := by
  induction named with
  | nil => rw [insert, find?, if_pos same]
  | cons entry rest induction =>
      have rest_alike := fun entry member => alike entry (List.mem_cons_of_mem _ member)
      have entry_alike := alike entry (by simp)
      rw [insert]
      by_cases here : entry.1.same name = true
      · rw [if_pos here, find?, if_pos (entry_alike ▸ here)]
      · rw [if_neg here, find?, if_neg (entry_alike ▸ here), induction rest_alike]

theorem find?_insert_of_not_same
    (apart : ∀ entry ∈ named, entry.1.same name = true → ¬entry.1.same other = true)
    (different : ¬name.same other = true) :
    find? other (insert name thing named) = find? other named := by
  induction named with
  | nil => simp [insert, find?, different]
  | cons entry rest induction =>
      have rest_apart := fun entry member => apart entry (List.mem_cons_of_mem _ member)
      rw [insert]
      by_cases here : entry.1.same name = true
      · have elsewhere := apart entry (by simp) here
        rw [if_pos here, find?, find?, if_neg elsewhere, if_neg elsewhere]
      · rw [if_neg here, find?, find?, induction rest_apart]

/-- What is filed under a name is found under it and left alone under all others. -/
theorem find?_insert (isName : name.isName = true) (isOther : other.isName = true) :
    find? other (insert name thing named) =
      if name.same other = true then some thing else find? other named := by
  have plain {filed target : Value} (isTarget : target.isName = true) :
      filed.same target = true ↔
        filed.isName = true ∧ Value.plain filed = Value.plain target := by
    constructor
    · intro alike
      have isFiled := Value.isName_of_same alike isTarget
      exact ⟨isFiled, (Value.same_iff_plain_eq isFiled isTarget).mp alike⟩
    · exact fun ⟨isFiled, equal⟩ => (Value.same_iff_plain_eq isFiled isTarget).mpr equal
  split_ifs with same
  · refine find?_insert_of_same (fun entry _ => ?_) same
    rw [Bool.eq_iff_iff, plain isName, plain isOther, ((plain isOther).mp same).2]
  · refine find?_insert_of_not_same (fun entry _ here elsewhere => ?_) same
    exact same ((plain isOther).mpr ⟨isName, (((plain isName).mp here).2).symm.trans
      ((plain isOther).mp elsewhere).2⟩)

theorem UnderNames.insert (names : UnderNames named) (isName : name.isName = true) :
    UnderNames (insert name thing named) := by
  induction named with
  | nil => simpa [Named.insert, UnderNames] using isName
  | cons entry rest induction =>
      have rest_names : UnderNames rest := fun entry member =>
        names entry (List.mem_cons_of_mem _ member)
      rw [Named.insert]
      split_ifs
      · exact List.forall_mem_cons.mpr ⟨names entry (by simp), rest_names⟩
      · exact List.forall_mem_cons.mpr ⟨names entry (by simp), induction rest_names⟩

/-- What is filed under a text is left alone by all that is filed under other values. -/
theorem find?_insert_of_ne_text {text : Text} (different : name ≠ .text text) :
    find? (.text text) (insert name thing named) = find? (.text text) named := by
  refine find?_insert_of_not_same (fun entry _ here elsewhere => ?_) fun same => ?_
  · rw [Value.same_text_iff.mp elsewhere] at here
    exact different (Value.text_same_iff.mp here)
  · exact different (Value.same_text_iff.mp same)

/-- Texts are names that are the same only if they are equal, whatever else is filed. -/
theorem find?_insert_text (left right : Text) (thing : α) (named : Named α) :
    find? (.text right) (insert (.text left) thing named) =
      if left = right then some thing else find? (.text right) named := by
  split_ifs with equal
  · exact find?_insert_of_same (fun _ _ => by rw [equal])
      (Value.same_text_iff.mpr (by rw [equal]))
  · exact find?_insert_of_ne_text fun same => equal (Value.text.inj same)

end Insert

end Named

end RobotRules
