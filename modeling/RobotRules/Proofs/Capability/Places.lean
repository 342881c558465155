import Mathlib.Data.List.Nodup
import RobotRules.Proofs.Capability.Parts
import RobotRules.Proofs.Result
import RobotRules.Proofs.Text

/-! The saved places as a set of names. Names are compared by their lower case, and what is
said of a place is trimmed first. Operations on places do to the list of the robot what
`PlaceSet` does to its names. -/

namespace RobotRules

open Act (reached)

namespace Text

@[simp] theorem lower_eq_nil_iff {text : Text} : lower text = [] ↔ text = [] := by
  have visible (before : Text) (c : Char) (after : Text) : lowerBetween before c after ≠ [] := by
    unfold lowerBetween
    split
    · simp
    · split
      · split <;> simp
      · simp
  cases text with
  | nil => simp [lower, lowerFrom]
  | cons c rest => simp [lower, lowerFrom, visible]

end Text

/-- Names of places in the order in which they were saved, all different in lower case. -/
@[ext]
structure PlaceSet where
  names : List Text
  distinct : (names.map Text.lower).Nodup

namespace PlaceSet

variable {set : PlaceSet} {spoken other : Text}

/-- A saved name is the one that is spoken of, but for case and surrounding white space. -/
def Means (spoken saved : Text) : Prop :=
  ¬Text.isBlank spoken = true ∧ Text.lower saved = Text.lower (Text.trim spoken)

instance (spoken saved : Text) : Decidable (Means spoken saved) :=
  inferInstanceAs (Decidable (_ ∧ _))

/-- Whether the place that is spoken of is saved. -/
def Has (set : PlaceSet) (spoken : Text) : Prop := ∃ saved ∈ set.names, Means spoken saved

instance (set : PlaceSet) (spoken : Text) : Decidable (set.Has spoken) :=
  inferInstanceAs (Decidable (∃ saved ∈ set.names, _))

/-- The places as the robot keeps them. -/
def values (set : PlaceSet) : List Value := set.names.map .text

/-- A new name, trimmed, goes to the end. -/
def insert (spoken : Text) (set : PlaceSet) : PlaceSet :=
  if fresh : ¬Text.isBlank spoken = true ∧ ¬set.Has spoken then
    { names := set.names ++ [Text.trim spoken]
      distinct := by
        have absent : Text.lower (Text.trim spoken) ∉ set.names.map Text.lower := fun member => by
          rcases List.mem_map.mp member with ⟨saved, isSaved, same⟩
          exact fresh.2 ⟨saved, isSaved, fresh.1, same⟩
        rw [List.map_append]
        exact List.nodup_append'.mpr ⟨set.distinct, List.nodup_singleton _,
          List.disjoint_singleton.mpr absent⟩ }
  else set

def erase (spoken : Text) (set : PlaceSet) : PlaceSet where
  names := set.names.filter fun saved => ¬Means spoken saved
  distinct := set.distinct.sublist (List.filter_sublist.map Text.lower)

theorem insert_of_has (has : set.Has spoken) : set.insert spoken = set :=
  dif_neg fun fresh => fresh.2 has

theorem insert_of_isBlank (blank : Text.isBlank spoken = true) : set.insert spoken = set :=
  dif_neg fun fresh => fresh.1 blank

theorem not_has_of_isBlank (blank : Text.isBlank spoken = true) : ¬set.Has spoken :=
  fun ⟨_, _, visible, _⟩ => visible blank

theorem names_insert (visible : ¬Text.isBlank spoken = true) (fresh : ¬set.Has spoken) :
    (set.insert spoken).names = set.names ++ [Text.trim spoken] := by
  rw [insert, dif_pos ⟨visible, fresh⟩]

theorem erase_of_not_has (fresh : ¬set.Has spoken) : set.erase spoken = set :=
  PlaceSet.ext <| List.filter_eq_self.mpr fun saved isSaved => by
    simpa using fun means => fresh ⟨saved, isSaved, means⟩

/-- Of all names just the one that is spoken of is erased. -/
theorem exists_erase (has : set.Has spoken) : ∃ front saved back,
    set.names = front ++ saved :: back ∧ Means spoken saved ∧
      (set.erase spoken).names = front ++ back := by
  rcases has with ⟨saved, isSaved, means⟩
  rcases List.append_of_mem isSaved with ⟨front, back, split⟩
  refine ⟨front, saved, back, split, means, ?_⟩
  have distinct := set.distinct
  rw [split, List.map_append, List.map_cons] at distinct
  have once := (List.nodup_middle.mp distinct)
  have others : ∀ name ∈ front ++ back, ¬Means spoken name := fun name member meansToo => by
    refine (List.nodup_cons.mp once).1 ?_
    rw [means.2, ← meansToo.2, ← List.map_append]
    exact List.mem_map_of_mem member
  have kept : (front ++ back).filter (fun name => ¬Means spoken name) = front ++ back :=
    List.filter_eq_self.mpr fun name member => by simpa using others name member
  change set.names.filter _ = _
  rw [split, List.filter_append, List.filter_cons_of_neg (by simpa using means),
    ← List.filter_append, kept]

/-- Spellings of one place: the same but for case and surrounding white space. -/
theorem visible_of_lower_trim_eq (visible : ¬Text.isBlank spoken = true)
    (same : Text.lower (Text.trim other) = Text.lower (Text.trim spoken)) :
    ¬Text.isBlank other = true := by
  rw [← Text.trim_eq_nil_iff, ← Text.lower_eq_nil_iff] at visible ⊢
  rwa [same]

theorem has_insert (visible : ¬Text.isBlank spoken = true)
    (same : Text.lower (Text.trim other) = Text.lower (Text.trim spoken)) :
    (set.insert spoken).Has other := by
  have otherVisible := visible_of_lower_trim_eq visible same
  by_cases has : set.Has spoken
  · rw [insert_of_has has]
    rcases has with ⟨saved, isSaved, means⟩
    exact ⟨saved, isSaved, otherVisible, means.2.trans same.symm⟩
  · refine ⟨Text.trim spoken, ?_, otherVisible, same.symm⟩
    simp [names_insert visible has]

theorem not_has_erase (visible : ¬Text.isBlank spoken = true)
    (same : Text.lower (Text.trim other) = Text.lower (Text.trim spoken)) :
    ¬(set.erase spoken).Has other := by
  rintro ⟨saved, isSaved, means⟩
  have kept := (List.mem_filter.mp isSaved).2
  exact of_decide_eq_true kept ⟨visible, means.2.trans same⟩

end PlaceSet

namespace Places

theorem isAmong?_texts (name : Text) (names : List Text) :
    isAmong? name (names.map .text) = .ok (decide (name ∈ names.map Text.lower)) := by
  induction names with
  | nil => rfl
  | cons place rest induction =>
      rw [List.map_cons, isAmong?, lower?]
      by_cases same : Text.lower place = name
      · simp [same, bind, Except.bind, pure, Except.pure]
      · simp [same, Ne.symm same, induction, bind, Except.bind]

theorem without?_texts (name : Text) (names : List Text) :
    without? name (names.map .text) =
      .ok ((names.filter fun place => Text.lower place ≠ name).map .text) := by
  induction names with
  | nil => rfl
  | cons place rest induction =>
      rw [List.map_cons, without?, induction, lower?]
      by_cases same : Text.lower place = name
      · simp [same, bind, Except.bind, pure, Except.pure]
      · simp [same, bind, Except.bind, pure, Except.pure]

theorem mapM_nameOf?_texts (names : List Text) :
    (names.map Value.text).mapM nameOf? = .ok names := by
  rw [Result.mapM_eq_ok_iff, List.forall₂_map_left_iff, List.forall₂_same]
  exact fun _ _ => rfl

theorem isSaved_eq (name : Text) (world : World) :
    isSaved name world =
      (match isAmong? name world.robot.locations with
      | .ok found => pure found
      | .error failure => throw failure : World.Action Bool) world := rfl

theorem robotDelete_eq (name : Text) {world : World}
    (saves : world.robot.keepsLocations = false) :
    robotDelete name world =
      (match without? (Text.lower name) world.robot.locations with
      | .error failure => throw failure
      | .ok others => do
        setSaved others
        World.tell (.deleteLocation name)
        return others.length != world.robot.locations.length : World.Action Bool) world := by
  unfold robotDelete
  rw [Act.get_bind, saves]
  rfl

theorem describeAll_eq (world : World) :
    describeAll world =
      (match world.robot.locations with
      | [] => pure (Value.text noneSaved)
      | places =>
        match places.mapM nameOf? with
        | .ok names => pure (Value.text (Text.join ", " names))
        | .error failure => throw failure : World.Action Value) world := rfl

theorem clean?_text {spoken : Text} (visible : ¬Text.isBlank spoken = true) :
    clean? (.text spoken) = some (Text.trim spoken) := by
  rw [clean?, if_neg visible]

/-- A value is the name of a place if it is a text that is not blank. -/
theorem clean?_cases (value : Value) :
    clean? value = none ∨ ∃ spoken, value = .text spoken ∧ ¬Text.isBlank spoken = true := by
  cases value with
  | text spoken =>
      by_cases blank : Text.isBlank spoken = true
      · exact .inl (if_pos blank)
      · exact .inr ⟨spoken, rfl, blank⟩
  | _ => exact .inl rfl

theorem isBlank_of_clean? {name : Value} (refused : clean? name = none) :
    Text.isBlank name.asText = true := by
  cases name with
  | text spoken =>
      by_contra visible
      cases (clean?_text visible).symm.trans refused
  | _ => rfl

end Places

namespace World

/-- The robot is one that saves and deletes places, and it has those of a set. -/
structure HasPlaces (set : PlaceSet) (world : World) : Prop where
  locations : world.robot.locations = set.values
  saves : world.robot.keepsLocations = false

variable {set : PlaceSet} {spoken : Text} {world before after : World}

theorem HasPlaces.of_untouched (holds : HasPlaces set before)
    (untouched : Untouched .places before after) : HasPlaces set after :=
  ⟨untouched.stays.1.trans holds.locations, untouched.stays.2.trans holds.saves⟩

namespace HasPlaces

theorem isSaved_eq (holds : HasPlaces set world) (visible : ¬Text.isBlank spoken = true) :
    Places.isSaved (Text.lower (Text.trim spoken)) world = .ok (decide (set.Has spoken)) world := by
  have known : Text.lower (Text.trim spoken) ∈ set.names.map Text.lower ↔ set.Has spoken := by
    rw [List.mem_map]
    exact exists_congr fun saved => and_congr_right fun _ => (and_iff_right visible).symm
  have among := Places.isAmong?_texts (Text.lower (Text.trim spoken)) set.names
  rw [decide_eq_decide.mpr known] at among
  rw [Places.isSaved_eq, holds.locations, PlaceSet.values, among]
  rfl

theorem isKnown_eq (holds : HasPlaces set world) (spoken : Text) :
    Places.isKnown (.text spoken) world = .ok (.boolean (decide (set.Has spoken))) world := by
  unfold Places.isKnown
  by_cases blank : Text.isBlank spoken = true
  · rw [Places.clean?, if_pos blank, decide_eq_false (PlaceSet.not_has_of_isBlank blank)]
    rfl
  · rw [Places.clean?_text blank]
    exact Act.bind_of_ok _ (holds.isSaved_eq blank)

theorem exists_robotSave (holds : HasPlaces set world) (visible : ¬Text.isBlank spoken = true) :
    ∃ after, Places.robotSave (Text.trim spoken) world = .ok true after ∧
      HasPlaces (set.insert spoken) after := by
  have saved := holds.isSaved_eq visible
  unfold Places.robotSave
  rw [Act.get_bind, holds.saves]
  by_cases has : set.Has spoken
  · rw [decide_eq_true has] at saved
    rw [PlaceSet.insert_of_has has]
    exact ⟨_, Act.bind_of_ok _ saved, holds.of_untouched (spares_tell (by simp [Part.ofAction?]) _)⟩
  · rw [decide_eq_false has] at saved
    refine ⟨_, Act.bind_of_ok _ saved, ?_, holds.saves⟩
    change world.robot.locations ++ [_] = _
    rw [holds.locations, PlaceSet.values, PlaceSet.values, PlaceSet.names_insert visible has,
      List.map_append, List.map_singleton]

/-- Saving a place saves it in the set. -/
theorem exists_save (holds : HasPlaces set world) (visible : ¬Text.isBlank spoken = true) :
    ∃ after, Places.save (.text spoken) world = .ok (.boolean true) after ∧
      HasPlaces (set.insert spoken) after := by
  rcases holds.exists_robotSave visible with ⟨after, saves, holdsAfter⟩
  unfold Places.save
  rw [Places.clean?_text visible]
  exact ⟨after, Act.bind_of_ok _ saves, holdsAfter⟩

theorem exists_robotDelete (holds : HasPlaces set world) (has : set.Has spoken) :
    ∃ after, Places.robotDelete (Text.trim spoken) world = .ok true after ∧
      HasPlaces (set.erase spoken) after := by
  have visible : ¬Text.isBlank spoken = true := has.elim fun _ found => found.2.1
  have others : (set.names.filter fun place => Text.lower place ≠ Text.lower (Text.trim spoken)) =
      (set.erase spoken).names :=
    List.filter_congr fun place _ => by simp [PlaceSet.Means, visible]
  have fewer : (set.erase spoken).values.length ≠ set.values.length := by
    rcases PlaceSet.exists_erase has with ⟨front, saved, back, all, _, rest⟩
    simp [PlaceSet.values, all, rest]
  have without := Places.without?_texts (Text.lower (Text.trim spoken)) set.names
  rw [others] at without
  have decided : ((set.erase spoken).values.length != set.values.length) = true := by
    simpa using fewer
  rw [Places.robotDelete_eq _ holds.saves, holds.locations, PlaceSet.values, without]
  exact ⟨_, congrArg (EStateM.Result.ok · _) decided, rfl, holds.saves⟩

/-- Deleting a place erases it from the set. -/
theorem exists_delete (holds : HasPlaces set world) (has : set.Has spoken) :
    ∃ after, Places.delete (.text spoken) world = .ok (.boolean true) after ∧
      HasPlaces (set.erase spoken) after := by
  have visible : ¬Text.isBlank spoken = true := has.elim fun _ found => found.2.1
  have saved := holds.isSaved_eq visible
  rw [decide_eq_true has] at saved
  rcases holds.exists_robotDelete has with ⟨after, deletes, holdsAfter⟩
  unfold Places.delete
  rw [Places.clean?_text visible]
  exact ⟨after, (Act.bind_of_ok _ saved).trans (Act.bind_of_ok _ deletes), holdsAfter⟩

/-- A place that is not saved is not deleted, which is all that is noted. -/
theorem exists_delete_of_not_has (holds : HasPlaces set world) (fresh : ¬set.Has spoken) :
    ∃ entry, Places.delete (.text spoken) world = .ok (.boolean false) (record entry world) := by
  unfold Places.delete
  by_cases blank : Text.isBlank spoken = true
  · rw [Places.clean?, if_pos blank]
    exact ⟨_, rfl⟩
  · have saved := holds.isSaved_eq blank
    rw [decide_eq_false fresh] at saved
    rw [Places.clean?_text blank]
    exact ⟨_, Act.bind_of_ok _ saved⟩

theorem describeAll_eq (holds : HasPlaces set world) : Places.describeAll world =
    .ok (.text (if set.names.isEmpty then Places.noneSaved else Text.join ", " set.names))
      world := by
  have names := Places.mapM_nameOf?_texts set.names
  rw [Places.describeAll_eq, holds.locations, PlaceSet.values]
  cases all : set.names with
  | nil => rfl
  | cons name rest =>
      rw [all, List.map_cons] at names
      rw [List.map_cons]
      dsimp only
      rw [names]
      rfl

end HasPlaces

/-- What is no name of a place is neither saved nor deleted nor known. -/
theorem exists_save_of_clean? {value : Value} (refused : Places.clean? value = none)
    (world : World) :
    ∃ entry, Places.save value world = .ok (.boolean false) (record entry world) := by
  unfold Places.save
  rw [refused]
  exact ⟨_, rfl⟩

theorem exists_delete_of_clean? {value : Value} (refused : Places.clean? value = none)
    (world : World) :
    ∃ entry, Places.delete value world = .ok (.boolean false) (record entry world) := by
  unfold Places.delete
  rw [refused]
  exact ⟨_, rfl⟩

theorem isKnown_of_clean? {value : Value} (refused : Places.clean? value = none) (world : World) :
    Places.isKnown value world = .ok (.boolean false) world := by
  unfold Places.isKnown
  rw [refused]
  rfl

end World

namespace PlaceSet

/-- What an operation makes of the set of places. -/
def ran (operation : Operation) (arguments : List Value) (set : PlaceSet) : PlaceSet :=
  match operation, arguments with
  | .saveLocation, [name] => set.insert name.asText
  | .deleteLocation, [name] => set.erase name.asText
  | _, _ => set

end PlaceSet

namespace World

/-- Each operation does to the places what it does to their set. -/
theorem HasPlaces.ran {set : PlaceSet} {world : World} (holds : HasPlaces set world)
    (operation : Operation) (receiver : Text) (arguments : List Value) :
    HasPlaces (set.ran operation arguments) (reached (operation.run receiver arguments world)) := by
  have unsaid (entry : LogEntry) : HasPlaces set (record entry world) :=
    holds.of_untouched (spares_record entry world)
  cases operation with
  | saveLocation =>
      match arguments with
      | [] | _ :: _ :: _ => exact holds
      | [name] =>
          change HasPlaces _ (reached (Places.save name world))
          rcases Places.clean?_cases name with refused | ⟨spoken, rfl, visible⟩
          · rcases exists_save_of_clean? refused world with ⟨entry, saves⟩
            rw [saves, PlaceSet.ran, PlaceSet.insert_of_isBlank (Places.isBlank_of_clean? refused)]
            exact unsaid entry
          · rcases holds.exists_save visible with ⟨after, saves, holdsAfter⟩
            rw [saves]
            exact holdsAfter
  | deleteLocation =>
      match arguments with
      | [] | _ :: _ :: _ => exact holds
      | [name] =>
          change HasPlaces _ (reached (Places.delete name world))
          rcases Places.clean?_cases name with refused | ⟨spoken, rfl, visible⟩
          · rcases exists_delete_of_clean? refused world with ⟨entry, deletes⟩
            have unknown : ¬set.Has name.asText :=
              PlaceSet.not_has_of_isBlank (Places.isBlank_of_clean? refused)
            rw [deletes, PlaceSet.ran, PlaceSet.erase_of_not_has unknown]
            exact unsaid entry
          · by_cases has : set.Has spoken
            · rcases holds.exists_delete has with ⟨after, deletes, holdsAfter⟩
              rw [deletes]
              exact holdsAfter
            · rcases holds.exists_delete_of_not_has has with ⟨entry, deletes⟩
              rw [deletes, PlaceSet.ran, Value.asText, PlaceSet.erase_of_not_has has]
              exact unsaid entry
  | _ => exact holds.of_untouched (spares_run (by simp [Operation.touches]) _ _ world)

end World

end RobotRules
