import RobotRules.Proofs.Capability.Places
import RobotRules.Proofs.Loop.Upkeep

/-! The saved places in the life of an engine. At every moment they are an ordered set of
names, and all that is asked for about places describes that set. -/

namespace RobotRules

namespace World

/-- Everything that tells of the places tells of those of a set. -/
structure Describes (world : World) (set : PlaceSet) : Prop where
  locations : world.robot.locations = set.values
  isKnown : ∀ spoken, invoke "Locations" "locationExists" [.text spoken] world =
    .ok (.boolean (decide (set.Has spoken))) world
  isUnknown : ∀ value, (∀ text, value ≠ .text text) →
    invoke "Locations" "locationExists" [value] world = .ok (.boolean false) world
  count : invoke "Locations" "getLocationCount" [] world = .ok (.integer set.names.length) world
  list : invoke "Locations" "listLocations" [] world =
    .ok (.text (if set.names.isEmpty then Places.noneSaved else Text.join ", " set.names)) world
  saved : invoke "Move" "getSavedLocations" [] world = .ok (.list set.values) world

/-- Places are saved and deleted as in an ordered set that ignores case and surrounding white
space. -/
structure ServesPlaces (world : World) (set : PlaceSet) : Prop where
  describes : world.Describes set
  saves : ∀ spoken, ¬Text.isBlank spoken = true →
    ∃ after, invoke "Locations" "saveCurrentLocation" [.text spoken] world =
        .ok (.boolean true) after ∧
      after.Describes (set.insert spoken) ∧
      (set.Has spoken → set.insert spoken = set) ∧
      (¬set.Has spoken → (set.insert spoken).names = set.names ++ [Text.trim spoken]) ∧
      ∀ other, Text.lower (Text.trim other) = Text.lower (Text.trim spoken) →
        (set.insert spoken).Has other
  deletes : ∀ spoken, set.Has spoken →
    ∃ after, invoke "Locations" "deleteLocation" [.text spoken] world =
        .ok (.boolean true) after ∧
      after.Describes (set.erase spoken) ∧
      (∃ front saved back, set.names = front ++ saved :: back ∧
        Text.lower saved = Text.lower (Text.trim spoken) ∧
        (set.erase spoken).names = front ++ back) ∧
      ∀ other, Text.lower (Text.trim other) = Text.lower (Text.trim spoken) →
        ¬(set.erase spoken).Has other
  /-- A place that is not saved, or no place at all, is not deleted. -/
  passesOver : ∀ spoken, ¬set.Has spoken →
    ∃ entry, invoke "Locations" "deleteLocation" [.text spoken] world =
      .ok (.boolean false) (record entry world)
  /-- What is blank or no text changes nothing but the log. -/
  refuses : ∀ value, (∀ text, value = .text text → Text.isBlank text = true) →
    (∃ entry, invoke "Locations" "saveCurrentLocation" [value] world =
      .ok (.boolean false) (record entry world)) ∧
    ∃ entry, invoke "Locations" "deleteLocation" [value] world =
      .ok (.boolean false) (record entry world)

/-- The capabilities that have to do with places are in their places. -/
structure Placed (world : World) : Prop where
  keeper : Reserved "Locations" .places world
  mover : Reserved "Move" (.motion .stationary) world

section Placed

variable {world after : World} {set : PlaceSet}

theorem Placed.describes (placed : Placed world) (holds : HasPlaces set world) :
    world.Describes set where
  locations := holds.locations
  isKnown spoken := by
    rw [invoke_of_offers (placed.keeper.offers rfl)]
    exact holds.isKnown_eq spoken
  isUnknown value other := by
    rw [invoke_of_offers (placed.keeper.offers rfl)]
    rcases Places.clean?_cases value with refused | ⟨spoken, rfl, _⟩
    · exact isKnown_of_clean? refused world
    · exact absurd rfl (other spoken)
  count := by
    rw [invoke_of_offers (placed.keeper.offers rfl)]
    change EStateM.Result.ok (Value.integer (world.robot.locations.length : Nat)) world = _
    rw [holds.locations, PlaceSet.values, List.length_map]
  list := by
    rw [invoke_of_offers (placed.keeper.offers rfl)]
    exact holds.describeAll_eq
  saved := by
    rw [invoke_of_offers (placed.mover.offers rfl), ← holds.locations]
    rfl

theorem Placed.of_registry_eq (placed : Placed world) (same : after.registry = world.registry) :
    Placed after :=
  ⟨placed.keeper.of_eq same, placed.mover.of_eq same⟩

theorem Placed.servesPlaces (placed : Placed world) (holds : HasPlaces set world) :
    world.ServesPlaces set where
  describes := placed.describes holds
  saves spoken visible := by
    rw [invoke_of_offers (placed.keeper.offers rfl)]
    rcases holds.exists_save visible with ⟨after, saves, holdsAfter⟩
    have same := (spares_save (by simp) (.text spoken) world).registry_eq
    rw [saves] at same
    exact ⟨after, saves, (placed.of_registry_eq same).describes holdsAfter,
      PlaceSet.insert_of_has, PlaceSet.names_insert visible,
      fun _ alike => PlaceSet.has_insert visible alike⟩
  deletes spoken has := by
    have visible : ¬Text.isBlank spoken = true := has.elim fun _ found => found.2.1
    rw [invoke_of_offers (placed.keeper.offers rfl)]
    rcases holds.exists_delete has with ⟨after, deletes, holdsAfter⟩
    have same := (spares_delete (by simp) (.text spoken) world).registry_eq
    rw [deletes] at same
    rcases PlaceSet.exists_erase has with ⟨front, saved, back, all, means, rest⟩
    exact ⟨after, deletes, (placed.of_registry_eq same).describes holdsAfter,
      ⟨front, saved, back, all, means.2, rest⟩,
      fun _ alike => PlaceSet.not_has_erase visible alike⟩
  passesOver spoken fresh := by
    rw [invoke_of_offers (placed.keeper.offers rfl)]
    exact holds.exists_delete_of_not_has fresh
  refuses value blank := by
    have refused : Places.clean? value = none := by
      rcases Places.clean?_cases value with refused | ⟨spoken, rfl, visible⟩
      · exact refused
      · exact absurd (blank spoken rfl) visible
    rw [invoke_of_offers (placed.keeper.offers rfl), invoke_of_offers (placed.keeper.offers rfl)]
    exact ⟨exists_save_of_clean? refused world, exists_delete_of_clean? refused world⟩

theorem upholds_placed : Upholds Placed where
  operation placed offers arguments world now :=
    ⟨placed.keeper.keeps_run offers arguments world now.keeper,
      placed.mover.keeps_run offers arguments world now.mover⟩
  memory operation arguments world now :=
    now.of_registry_eq (spares_memory (by simp) operation arguments world).registry_eq
  record _ _ now := now.of_registry_eq rfl

end Placed

end World

namespace PlaceSet

/-- What a call makes of the set of places. -/
def after (set : PlaceSet) (call : Dispatch) : PlaceSet :=
  if call.receiver = "Locations" then
    match Capability.places.operation? call.method with
    | some operation => set.ran operation call.arguments
    | none => set
  else set

variable {world : World} {receiver method : Text} {operation : Operation}

theorem after_of_offers (set : PlaceSet) (placed : World.Placed world)
    (offers : world.Offers receiver method operation) (arguments : List Value) :
    set.after ⟨receiver, method, arguments⟩ = set.ran operation arguments := by
  have owned := placed.keeper.eq_iff_of_offers offers
  unfold after
  by_cases here : receiver = "Locations".toList
  · rw [here] at offers
    rw [if_pos here, placed.keeper.operation?_eq offers]
  · rw [if_neg here]
    cases operation with
    | saveLocation | deleteLocation => exact absurd (owned.mpr rfl) here
    | _ => rfl

/-- The places after some calls are those of the set after these calls. -/
theorem maintains_after (set : PlaceSet) : World.Maintains (fun _ => True) World.Placed
    fun calls world => World.HasPlaces (calls.foldl after set) world where
  upholds := World.upholds_placed
  operation placed offers arguments _ calls world _ holds := by
    rw [List.foldl_append, List.foldl_cons, List.foldl_nil,
      after_of_offers _ placed offers arguments]
    exact holds.ran _ _ arguments
  memory named arguments _ calls world _ holds := by
    have elsewhere : World.memoryReceiver ≠ "Locations".toList := by decide
    rw [List.foldl_append, List.foldl_cons, List.foldl_nil, after, if_neg elsewhere]
    exact holds.of_untouched (World.spares_memory (by simp) _ arguments world)
  record entry calls world holds := holds.of_untouched (World.spares_record entry world)

end PlaceSet

namespace Engine

variable {engine : Engine} {set : PlaceSet}

theorem placed_step {step : Step} (fits : step.Fits "Locations" .places ∧
    step.Fits "Move" (.motion .stationary)) (placed : World.Placed engine.world) :
    World.Placed (engine.step step).world :=
  ⟨reserved_step (by decide) fits.1 placed.keeper, reserved_step (by decide) fits.2 placed.mover⟩

theorem hasPlaces_step (step : Step) (placed : World.Placed engine.world)
    (holds : World.HasPlaces set engine.world) :
    World.HasPlaces ((engine.calls step).foldl PlaceSet.after set) (engine.step step).world := by
  cases step with
  | evaluate | invoke | tick | runOldest =>
      exact (kept_of_isWork set.maintains_after rfl placed holds fun _ _ => trivial).2
  | _ => exact holds.of_untouched (untouched_step (by simp [Step.touches]) engine)

theorem hasPlaces_run {steps : List Step} (fits : ∀ step ∈ steps,
      step.Fits "Locations" .places ∧ step.Fits "Move" (.motion .stationary))
    (placed : World.Placed engine.world) (holds : World.HasPlaces set engine.world) :
    World.Placed (engine.run steps).world ∧
      World.HasPlaces ((engine.callsOf steps).foldl PlaceSet.after set)
        (engine.run steps).world := by
  induction steps generalizing engine set with
  | nil => exact ⟨placed, holds⟩
  | cons step rest induction =>
      rw [callsOf, List.foldl_append]
      exact induction (fun other member => fits other (List.mem_cons_of_mem _ member))
        (placed_step (fits step List.mem_cons_self) placed) (hasPlaces_step step placed holds)

/-- In the life of an engine whose places have different names, whatever rules do, the places
are an ordered set that ignores case and surrounding white space: the one that the calls so
far make of the first places. -/
theorem servesPlaces_run {names : List Text} (distinct : (names.map Text.lower).Nodup)
    (apps : List Text) (config : Config) (replies : Replies) (loop : Loop) (steps : List Step)
    (fits : ∀ step ∈ steps, step.Fits "Locations" .places ∧
      step.Fits "Move" (.motion .stationary)) :
    let engine : Engine :=
      ⟨.fresh config (.idle (names.map .text) apps false) replies, loop⟩
    (engine.run steps).world.ServesPlaces
      ((engine.callsOf steps).foldl PlaceSet.after ⟨names, distinct⟩) := by
  intro engine
  have placed : World.Placed engine.world := by
    constructor
    · exact World.reserved_fresh config _ replies (by simp [World.defaults] : .places ∈ _)
    · exact World.reserved_fresh config _ replies
        (by simp [World.defaults] : .motion .stationary ∈ _)
  have holds : World.HasPlaces ⟨names, distinct⟩ engine.world := ⟨rfl, rfl⟩
  have reaches := hasPlaces_run fits placed holds
  exact reaches.1.servesPlaces reaches.2

section Furnishing

def rooms : PlaceSet := ⟨["home base", "Kitchen"], by decide +kernel⟩

/-- A robot that has two places, and a rule that saves a third one. -/
def furnished : Engine :=
  ⟨.fresh {} (.idle (rooms.names.map .text) [] false) [],
    Loop.idle {} .deferred "[\"a\" == \"a\" --> Locations.saveCurrentLocation(\" Office \")]"⟩

/-- The rule fires, its batch is run, and the second place is deleted. -/
def furnishing : List Step :=
  [.start, .tick, .runOldest, .invoke "Locations" "deleteLocation" [.text "KITCHEN "]]

theorem servesPlaces_furnishing :
    (rooms.names.map Text.lower).Nodup ∧
      (∀ step ∈ furnishing, step.Fits "Locations" .places ∧
        step.Fits "Move" (.motion .stationary)) ∧
      (furnished.run furnishing).world.ServesPlaces
        ⟨["home base", "Office"], by decide +kernel⟩ := by
  have fits : ∀ step ∈ furnishing, step.Fits "Locations" .places ∧
      step.Fits "Move" (.motion .stationary) := by
    simp [furnishing, Step.Fits]
  have reached : (furnished.callsOf furnishing).foldl PlaceSet.after rooms =
      ⟨["home base", "Office"], by decide +kernel⟩ :=
    PlaceSet.ext (by decide +kernel)
  have serves := servesPlaces_run rooms.distinct [] {} [] furnished.loop furnishing fits
  exact ⟨rooms.distinct, fits, reached ▸ serves⟩

end Furnishing

end Engine

end RobotRules
