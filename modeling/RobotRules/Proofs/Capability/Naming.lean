import RobotRules.Proofs.Capability.Management

/-! Capabilities under their own names. So they are registered in every engine that is equipped
with the default ones, all or some of them and in any order, and so they stay, whatever operation
runs. -/

namespace RobotRules

open Act (reached Keeps)

namespace Capability

variable {capability other : Capability}

/-- A capability is one of those that the engine has of its own. -/
def IsOwn (capability : Capability) : Prop := ∀ foreign, capability ≠ .probe foreign

theorem isOwn_of_operations (own : other.IsOwn)
    (same : capability.operations = other.operations) : capability.IsOwn := by
  rintro foreign rfl
  cases other with
  | probe foreign => exact own foreign rfl
  | _ => cases same

/-- The first of its operations tells what such a capability is called. -/
theorem IsOwn.some_name_eq (own : capability.IsOwn) :
    some capability.name = capability.operations.head?.map fun entry => entry.2.owner.name := by
  cases capability with
  | probe foreign => exact absurd rfl (own foreign)
  | _ => rfl

theorem IsOwn.name_eq (own : other.IsOwn) (same : capability.operations = other.operations) :
    capability.name = other.name := by
  rw [← Option.some.injEq, own.some_name_eq, (isOwn_of_operations own same).some_name_eq, same]

end Capability

/-- No operation of the others touches anything. -/
theorem Operation.isOwn_owner {operation : Operation} {part : Part}
    (touched : part ∈ operation.touches) : operation.owner.IsOwn := by
  cases operation with
  | probeRecord | probeGive | probeFail => cases touched
  | _ => nofun

namespace World

/-- Each capability is registered under its own name. -/
def UnderOwnNames (world : World) : Prop := ∀ entry ∈ world.registry, entry.1 = entry.2.name

variable {receiver method : Text} {operation : Operation} {capability : Capability}
  {world before after : World}

namespace UnderOwnNames

theorem of_install (named : before.UnderOwnNames) (own : receiver = capability.name)
    (installed : after.registry = install receiver capability before.registry) :
    after.UnderOwnNames := by
  intro entry member
  rw [installed] at member
  rcases mem_install member with old | rfl
  · exact named entry old
  · exact own

theorem of_eq (named : before.UnderOwnNames) (same : after.registry = before.registry) :
    after.UnderOwnNames := by
  unfold UnderOwnNames
  rwa [same]

/-- So the name tells of what kind the operations are. -/
theorem eq_of_offers (named : world.UnderOwnNames) (own : operation.owner.IsOwn)
    (offers : world.Offers receiver method operation) : receiver = operation.owner.name := by
  rcases Option.bind_eq_some_iff.mp offers with ⟨capability, known, offered⟩
  have called : receiver = capability.name := named _ (mem_of_capability? known)
  rw [called, own.name_eq (Capability.operations_owner offered).symm]

theorem keeps_run (named : before.UnderOwnNames)
    (offers : before.Offers receiver method operation) (arguments : List Value) :
    Keeps UnderOwnNames (operation.run receiver arguments) := by
  intro world holds
  by_cases touched : .registry ∈ operation.touches
  case neg => exact holds.of_eq (spares_run touched receiver arguments world).registry_eq
  have own := Operation.isOwn_owner touched
  rcases refits_run operation receiver arguments world with same | ⟨capability, kind, installed⟩
  · exact holds.of_eq same
  · refine holds.of_install ?_ installed
    rw [named.eq_of_offers own offers, own.name_eq kind]

theorem keeps_memory (operation : MemoryOperation) (arguments : List Value) :
    Keeps UnderOwnNames (operation.run arguments) := fun world holds =>
  holds.of_eq (spares_memory (by simp) operation arguments world).registry_eq

/-- A default capability is registered under its own name. -/
theorem keeps_register {name : Text} (found : default? name = some capability) :
    Keeps UnderOwnNames (register name capability) := by
  have isNamed := List.find?_some found
  have own : capability.name = name := eq_of_beq isNamed
  have receives : receiverOf name capability = capability.name := by
    rw [receiverOf, own, ite_self]
  intro world holds
  rcases register_cases name capability world with same | ⟨installed, _⟩
  · exact holds.of_eq (same .registry).registry_eq
  · exact holds.of_install receives installed

theorem keeps_equip (names : List Text) : Keeps UnderOwnNames (equip names) := by
  induction names with
  | nil => exact Act.keeps_pure ()
  | cons name rest induction =>
      rw [equip]
      cases found : default? name with
      | none => exact (Act.keeps_throw _).bind fun _ => induction
      | some capability => exact (keeps_register found).bind fun _ => induction

end UnderOwnNames

/-- In an engine that is equipped with default capabilities each has its own name. -/
theorem underOwnNames_equip (names : List Text) (bare : world.registry = []) :
    (reached (equip names world)).UnderOwnNames := by
  refine UnderOwnNames.keeps_equip names world ?_
  unfold UnderOwnNames
  rw [bare]
  nofun

end World

end RobotRules
