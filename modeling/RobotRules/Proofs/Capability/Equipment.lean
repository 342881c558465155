import RobotRules.Proofs.Capability.Parts

/-! What is registered under which name. An operation belongs to one kind of capability, and
if it changes what its capability keeps track of, the capability stays of that kind. So what
names stand for does not change while rules are evaluated. -/

namespace RobotRules

open Act (reached)

theorem Apps.mem_of_find? {α : Type} {name : Text} {thing : α} {table : List (Text × α)}
    (found : find? name table = some thing) : (name, thing) ∈ table := by
  rcases Option.map_eq_some_iff.mp found with ⟨entry, first, rfl⟩
  have same := List.find?_some first
  exact eq_of_beq same ▸ List.mem_of_find?_eq_some first

/-- The name by which rules call an operation of memory. -/
def MemoryOperation.name : MemoryOperation → Text
  | .read => "getStateParam"
  | .write => "setStateParam"
  | .previous => "getPreviousStateParam"
  | .clearHistory => "clearHistory"
  | .reset => "reset"

theorem MemoryOperation.eq_name_of_find? {method : Text} {operation : MemoryOperation}
    (found : Apps.find? method all = some operation) : method = operation.name := by
  have each : (all.all fun entry => entry.1 == entry.2.name) = true := rfl
  exact eq_of_beq (List.all_eq_true.mp each _ (Apps.mem_of_find? found))

/-- A capability of the kind that an operation belongs to. -/
def Operation.owner : Operation → Capability
  | .speak => .speech
  | .listen | .stopListening | .isListening | .setListening => .recognition false
  | .headUp | .headDown => .head
  | .goToLocation | .goHome | .follow | .stopFollowing | .stopMovement | .getSavedLocations
  | .isMoving | .isFollowing | .getMovementState => .motion .stationary
  | .listLocations | .saveLocation | .deleteLocation | .countLocations | .locationExists =>
    .places
  | .openApp => .system
  | .ask => .assistant
  | .probeRecord | .probeGive | .probeFail => .probe ⟨[], .absent, false, false⟩

theorem Capability.operations_owner {capability : Capability} {name : Text}
    {operation : Operation} (offered : capability.operation? name = some operation) :
    operation.owner.operations = capability.operations := by
  have each : (capability.operations.all fun entry =>
      decide (entry.2.owner.operations = capability.operations)) = true := by
    cases capability <;> rfl
  exact of_decide_eq_true (List.all_eq_true.mp each _ (Apps.mem_of_find? offered))

namespace World

variable {receiver method : Text} {operation : Operation}

theorem capability?_install (receiver other : Text) (capability : Capability)
    (registry : Registry) :
    ((install receiver capability registry).find? fun entry => entry.1 == other).map Prod.snd =
      if receiver = other then some capability
      else (registry.find? fun entry => entry.1 == other).map Prod.snd := by
  induction registry with
  | nil => by_cases same : receiver = other <;> simp [install, same]
  | cons entry rest induction =>
      rw [install]
      by_cases here : entry.1 = receiver
      · by_cases same : receiver = other
        · simp [here, same]
        · simp [here, same]
      · by_cases found : entry.1 = other
        · have different : receiver ≠ other := fun same => here (found.trans same.symm)
          rw [if_neg here, if_neg different, List.find?_cons_of_pos (by simpa using found),
            List.find?_cons_of_pos (by simpa using found)]
        · rw [if_neg here, List.find?_cons_of_neg (by simpa using found), induction,
            List.find?_cons_of_neg (by simpa using found)]

theorem mem_install {capability : Capability} {registry : Registry}
    {entry : Text × Capability} (member : entry ∈ install receiver capability registry) :
    entry ∈ registry ∨ entry = (receiver, capability) := by
  induction registry with
  | nil => exact .inr (List.mem_singleton.mp member)
  | cons other rest induction =>
      rw [install] at member
      split at member
      · rename_i same
        rcases List.mem_cons.mp member with here | behind
        · exact .inr (same ▸ here)
        · exact .inl (List.mem_cons_of_mem _ behind)
      · rcases List.mem_cons.mp member with here | behind
        · exact .inl (here ▸ List.mem_cons_self)
        · exact (induction behind).imp_left (List.mem_cons_of_mem _)

/-- The operation that a capability registered under a name offers. -/
def Offers (world : World) (receiver method : Text) (operation : Operation) : Prop :=
  (world.capability? receiver).bind (Capability.operation? method) = some operation

/-- A name stands for an operation of memory or for one that a capability offers. -/
theorem resolve_cases {world : World} {found : List Value → Action Value}
    (resolved : host.resolve receiver method world = .ok found) :
    (receiver = memoryReceiver ∧ ∃ operation : MemoryOperation,
      Apps.find? method MemoryOperation.all = some operation ∧ found = operation.run) ∨
      ∃ operation, world.Offers receiver method operation ∧ found = operation.run receiver := by
  have resolved : world.resolve receiver method = .ok found := resolved
  unfold resolve at resolved
  split at resolved
  · rename_i isMemory
    split at resolved
    · rename_i operation named
      exact .inl ⟨isMemory, operation, named, (Except.ok.inj resolved).symm⟩
    · cases resolved
  · split at resolved
    · cases resolved
    · rename_i capability registered
      split at resolved
      · rename_i operation named
        refine .inr ⟨operation, ?_, (Except.ok.inj resolved).symm⟩
        rw [Offers, registered, Option.bind_some, named]
      · cases resolved

theorem invoke_of_offers {world : World} (offers : world.Offers receiver method operation)
    (arguments : List Value) :
    invoke receiver method arguments world = operation.run receiver arguments world := by
  rcases Option.bind_eq_some_iff.mp offers with ⟨capability, known, named⟩
  unfold invoke
  rw [Act.get_bind, known]
  dsimp only
  rw [named]

theorem invoke_of_none {world : World}
    (nothing : (world.capability? receiver).bind (Capability.operation? method) = none)
    (arguments : List Value) : reached (invoke receiver method arguments world) = world := by
  unfold invoke
  rw [Act.get_bind]
  cases known : world.capability? receiver with
  | none => rfl
  | some capability =>
      rw [known, Option.bind_some] at nothing
      dsimp only
      rw [nothing]
      rfl

/-! Changes of the registry by operations. -/

section Changes

variable {α β : Type} {operations : List (Text × Operation)}

theorem install_install (receiver : Text) (first second : Capability) (registry : Registry) :
    install receiver second (install receiver first registry) =
      install receiver second registry := by
  induction registry with
  | nil => simp [install]
  | cons entry rest induction =>
      by_cases here : entry.1 = receiver
      · simp [install, here]
      · simp only [install, if_neg here, induction]

/-- An action puts nothing into the registry but capabilities of one kind under one name. -/
def Refits (receiver : Text) (operations : List (Text × Operation)) (action : Action α) : Prop :=
  ∀ world, (reached (action world)).registry = world.registry ∨
    ∃ capability, capability.operations = operations ∧
      (reached (action world)).registry = install receiver capability world.registry

theorem refits_of_spares {action : Action α} (spares : Spares .registry action) :
    Refits receiver operations action := fun world => .inl (spares world).stays

theorem refits_setCapability {capability : Capability} (kind : capability.operations = operations) :
    Refits receiver operations (setCapability receiver capability) :=
  fun _ => .inr ⟨capability, kind, rfl⟩

theorem Refits.bind {first : Action α} {next : α → Action β}
    (one : Refits receiver operations first)
    (two : ∀ value, Refits receiver operations (next value)) :
    Refits receiver operations (first >>= next) := by
  intro world
  refine Act.reached_bind (fun after : World => after.registry = world.registry ∨
    ∃ capability, capability.operations = operations ∧
      after.registry = install receiver capability world.registry) (one world) ?_
  intro value between _ changed
  rcases two value between with same | ⟨capability, kind, installed⟩
  · rwa [same]
  · -- only the last one that was put there stays
    refine .inr ⟨capability, kind, installed.trans ?_⟩
    rcases changed with same | ⟨_, _, before⟩
    · rw [same]
    · rw [before, install_install]

theorem refits_setListening (receiver : Text) (listening : Value) :
    Refits receiver (Capability.recognition false).operations
      (Speech.setListening receiver listening) := by
  refine (refits_setCapability rfl).bind fun _ => refits_of_spares ?_
  refine (spares_modify fun _ => ?_).bind fun _ => spares_pure _
  exact untouched_of_eq rfl rfl rfl rfl rfl rfl rfl

theorem refits_drive (receiver name : Text) (speed backwards : Value) :
    Refits receiver (Capability.motion .stationary).operations (do
      Movement.setMotion receiver .navigating
      match Movement.isBackwards? backwards with
      | .error failure => throw failure
      | .ok backwards =>
        tell (.goTo name backwards (Movement.speed? speed))
        return Value.absent) := by
  refine (refits_setCapability rfl).bind fun _ => refits_of_spares ?_
  cases Movement.isBackwards? backwards with
  | error failure => exact spares_throw failure
  | ok backwards => exact (spares_tell (by simp [Part.ofAction?])).bind fun _ => spares_pure _

theorem refits_goTo (receiver : Text) (location speed backwards : Value) :
    Refits receiver (Capability.motion .stationary).operations
      (Movement.goTo receiver location speed backwards) := by
  have drive (name : Text) := refits_drive receiver name speed backwards
  unfold Movement.goTo
  split
  · refine (refits_of_spares (spares_of_reads reads_saved)).bind fun places => ?_
    refine (refits_of_spares (spares_of_reads (reads_isSaved _))).bind fun saved => ?_
    cases saved with
    | true => exact drive _
    | false => exact (refits_of_spares (spares_warn _ _)).bind fun _ => drive _
  · exact refits_of_spares ((spares_reportError _ _).bind fun _ => spares_pure _)

theorem refits_move (receiver : Text) (state : Motion) {action : RobotAction}
    (other : Part.ofAction? action ≠ some .registry) :
    Refits receiver (Capability.motion .stationary).operations
      (do Movement.setMotion receiver state; tell action; return Value.absent) :=
  (refits_setCapability rfl).bind fun _ =>
    refits_of_spares ((spares_tell other).bind fun _ => spares_pure _)

/-- If an operation changes its capability, it puts another one of the kind in its place. -/
theorem refits_run (operation : Operation) (receiver : Text) (arguments : List Value) :
    Refits receiver operation.owner.operations (operation.run receiver arguments) := by
  have refused {operations : List (Text × Operation)} : Refits receiver operations
      (throw .argumentCount : Action Value) := refits_of_spares (spares_throw _)
  have hushed : Spares .registry (do tell .finishConversation; return Value.absent) :=
    (spares_tell (by simp [Part.ofAction?])).bind fun _ => spares_pure _
  have asked : Spares .registry (do
      tell .finishConversation; tell (.askQuestion " "); return Value.absent) :=
    (spares_tell (by simp [Part.ofAction?])).bind fun _ =>
      (spares_tell (by simp [Part.ofAction?])).bind fun _ => spares_pure _
  cases operation with
  | listen =>
      rcases arguments with _ | ⟨_, _⟩
      · exact (refits_setListening receiver _).bind fun _ => refits_of_spares asked
      · exact refused
  | stopListening =>
      rcases arguments with _ | ⟨_, _⟩
      · exact (refits_setListening receiver _).bind fun _ => refits_of_spares hushed
      · exact refused
  | setListening =>
      rcases arguments with _ | ⟨listening, _ | ⟨_, _⟩⟩
      · exact refused
      · exact refits_setListening receiver listening
      · exact refused
  | goToLocation =>
      rcases arguments with _ | ⟨location, _ | ⟨speed, _ | ⟨backwards, _ | ⟨_, _⟩⟩⟩⟩
      · exact refused
      · exact refits_goTo receiver location .absent (.boolean false)
      · exact refits_goTo receiver location speed (.boolean false)
      · exact refits_goTo receiver location speed backwards
      · exact refused
  | goHome =>
      rcases arguments with _ | ⟨speed, _ | ⟨_, _⟩⟩
      · exact refits_move receiver .navigating (by simp [Part.ofAction?])
      · exact refits_move receiver .navigating (by simp [Part.ofAction?])
      · exact refused
  | follow =>
      rcases arguments with _ | ⟨speed, _ | ⟨_, _⟩⟩
      · exact refits_move receiver .following (by simp [Part.ofAction?])
      · exact refits_move receiver .following (by simp [Part.ofAction?])
      · exact refused
  | stopFollowing | stopMovement =>
      rcases arguments with _ | ⟨_, _⟩
      · exact refits_move receiver .stationary (by simp [Part.ofAction?])
      · exact refused
  | _ => exact refits_of_spares (spares_run (by simp [Operation.touches]) receiver arguments)

end Changes

/-- A name that stands for one kind of capability. Capabilities of the kind are registered
under it and under no other name. -/
structure Reserved (name : Text) (kind : Capability) (world : World) : Prop where
  registered : name ∈ world.registry.map Prod.fst
  sole : ∀ entry ∈ world.registry, entry.1 = name ↔ entry.2.operations = kind.operations

section Reserved

variable {name : Text} {kind capability : Capability} {world before after : World} {α : Type}
  {operations : List (Text × Operation)}

theorem mem_of_capability? (found : world.capability? receiver = some capability) :
    (receiver, capability) ∈ world.registry := Apps.mem_of_find? found

namespace Reserved

theorem exists_capability? (reserved : Reserved name kind world) :
    ∃ capability, world.capability? name = some capability ∧
      capability.operations = kind.operations := by
  rcases List.mem_map.mp reserved.registered with ⟨entry, member, under⟩
  have found : (world.registry.find? fun entry => entry.1 == name).isSome = true :=
    List.find?_isSome.mpr ⟨entry, member, by simpa using under⟩
  rcases Option.isSome_iff_exists.mp found with ⟨first, isFirst⟩
  have known : world.capability? name = some first.2 := by rw [capability?, isFirst]; rfl
  exact ⟨first.2, known, (reserved.sole _ (mem_of_capability? known)).mp rfl⟩

theorem offers (reserved : Reserved name kind world)
    (offered : kind.operation? method = some operation) : world.Offers name method operation := by
  rcases reserved.exists_capability? with ⟨capability, known, same⟩
  rw [Offers, known, Option.bind_some, Capability.operation?, same]
  exact offered

/-- The operations that are offered under the name are those of the kind. -/
theorem eq_iff_of_offers (reserved : Reserved name kind world)
    (offers : world.Offers receiver method operation) :
    receiver = name ↔ operation.owner.operations = kind.operations := by
  rcases Option.bind_eq_some_iff.mp offers with ⟨capability, known, offered⟩
  rw [Capability.operations_owner offered]
  exact reserved.sole _ (mem_of_capability? known)

theorem operation?_eq (reserved : Reserved name kind world)
    (offers : world.Offers name method operation) : kind.operation? method = some operation := by
  rcases Option.bind_eq_some_iff.mp offers with ⟨capability, known, offered⟩
  have same := (reserved.sole _ (mem_of_capability? known)).mp rfl
  rwa [Capability.operation?, same] at offered

end Reserved

theorem mem_names_install {registry : Registry} (member : name ∈ registry.map Prod.fst) :
    name ∈ (install receiver capability registry).map Prod.fst := by
  induction registry with
  | nil => cases member
  | cons entry rest induction =>
      rw [install]
      split
      · exact member
      · rcases List.mem_cons.mp member with here | behind
        · exact here ▸ List.mem_cons_self
        · exact List.mem_cons_of_mem _ (induction behind)

/-- What is put in has to be under the name just when it is of the kind. -/
theorem Reserved.of_install (reserved : Reserved name kind before)
    (fits : receiver = name ↔ capability.operations = kind.operations)
    (installed : after.registry = install receiver capability before.registry) :
    Reserved name kind after where
  registered := installed ▸ mem_names_install reserved.registered
  sole entry member := by
    rw [installed] at member
    rcases mem_install member with old | rfl
    · exact reserved.sole entry old
    · exact fits

theorem Reserved.of_eq (reserved : Reserved name kind before)
    (same : after.registry = before.registry) : Reserved name kind after :=
  ⟨same ▸ reserved.registered, same ▸ reserved.sole⟩

theorem Refits.keeps_reserved {action : Action α} (refits : Refits receiver operations action)
    (fits : receiver = name ↔ operations = kind.operations) :
    Act.Keeps (Reserved name kind) action := by
  intro world reserved
  rcases refits world with kept | ⟨capability, rfl, installed⟩
  · exact reserved.of_eq kept
  · exact reserved.of_install fits installed

/-- A name stays reserved, whatever operation runs that was found beforehand. -/
theorem Reserved.keeps_run (reserved : Reserved name kind before)
    (offers : before.Offers receiver method operation) (arguments : List Value) :
    Act.Keeps (Reserved name kind) (operation.run receiver arguments) :=
  (refits_run operation receiver arguments).keeps_reserved (reserved.eq_iff_of_offers offers)

/-- In a new world the name of each capability is reserved for its kind. -/
theorem reserved_fresh (config : Config) (robot : Robot) (replies : Replies)
    (member : capability ∈ defaults) :
    Reserved capability.name capability (fresh config robot replies) where
  registered := List.mem_map.mpr ⟨(capability.name, capability), List.mem_map_of_mem member, rfl⟩
  sole := by
    have each : ∀ capability ∈ defaults, ∀ other ∈ defaults,
        other.name = capability.name ↔ other.operations = capability.operations := by
      decide
    intro entry isEntry
    rcases List.mem_map.mp isEntry with ⟨other, isOther, rfl⟩
    exact each capability member other isOther

end Reserved

end World

end RobotRules
