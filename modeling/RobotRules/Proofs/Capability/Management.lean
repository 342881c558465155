import RobotRules.Proofs.Capability.Equipment

/-! What changes without a call: the robot reports something, a capability is registered, all
are retired. Each touches few parts of the world. The registry is changed under the name of
the recognizer by reports, and under one name by a registration; retiring stops what moves
and leaves all else registered as it was. -/

namespace RobotRules

open Act (reached)

namespace World

variable {part : Part} {world : World}

/-! Reports look for an operation of the recognizer. -/

theorem operation_setListening {capability : Capability} {operation : Operation}
    (named : capability.operation? "setListeningState" = some operation) :
    operation = .setListening := by
  cases capability with
  | recognition => exact (Option.some.inj named).symm
  | _ => cases named

theorem operation_isListening {capability : Capability} {operation : Operation}
    (named : capability.operation? "isListening" = some operation) : operation = .isListening := by
  cases capability with
  | recognition => exact (Option.some.inj named).symm
  | _ => cases named

theorem askRecognizer?_eq (operation : Text) (arguments : List Value) (world : World) :
    Event.askRecognizer? operation arguments world =
      (match (world.capability? Event.recognizer).bind (Capability.operation? operation) with
        | some found => some <$> found.run Event.recognizer arguments
        | none => pure none : Action (Option Value)) world := rfl

/-- Asking the recognizer is asking for the operation that is found, if there is one. -/
theorem askRecognizer?_cases (operation : Text) (arguments : List Value) (world : World) :
    Event.askRecognizer? operation arguments world = .ok none world ∨
      ∃ found, world.Offers Event.recognizer operation found ∧
        Event.askRecognizer? operation arguments world =
          (some <$> found.run Event.recognizer arguments) world := by
  have asked := askRecognizer?_eq operation arguments world
  cases found : (world.capability? Event.recognizer).bind (Capability.operation? operation) with
  | none => exact .inl (by rw [asked, found]; rfl)
  | some offered => exact .inr ⟨offered, found, by rw [asked, found]⟩

/-- The recognizer is told to stop listening without failure, if there is one. -/
theorem askRecognizer?_setListening (world : World) :
    ∃ asked after, Event.askRecognizer? "setListeningState" [.boolean false] world =
      .ok asked after ∧ (after = world ∨
        after = reached (Speech.setListening Event.recognizer (.boolean false) world)) := by
  rcases askRecognizer?_cases "setListeningState" [.boolean false] world with
    nothing | ⟨found, offers, asked⟩
  · exact ⟨none, world, nothing, .inl rfl⟩
  · rcases Option.bind_eq_some_iff.mp offers with ⟨capability, _, named⟩
    obtain rfl := operation_setListening named
    exact ⟨some .absent, _, asked, .inr rfl⟩

theorem spares_askRecognizer? (other : part ≠ .registry) :
    Spares part (Event.askRecognizer? "setListeningState" [.boolean false]) := by
  intro world
  rcases askRecognizer?_setListening world with ⟨asked, after, done, rfl | rfl⟩
  · rw [done]
    exact .refl part _
  · rw [done]
    exact spares_setListening other _ _ world

theorem refits_askRecognizer? : Refits Event.recognizer (Capability.recognition false).operations
    (Event.askRecognizer? "setListeningState" [.boolean false]) := by
  intro world
  rcases askRecognizer?_setListening world with ⟨asked, after, done, rfl | rfl⟩
  · rw [done]
    exact .inl rfl
  · rw [done]
    exact refits_setListening _ _ world

theorem spares_isListening : Spares part (Event.askRecognizer? "isListening" []) := by
  intro world
  rcases askRecognizer?_cases "isListening" [] world with nothing | ⟨found, offers, asked⟩
  · rw [nothing]
    exact .refl part _
  · rcases Option.bind_eq_some_iff.mp offers with ⟨capability, _, named⟩
    obtain rfl := operation_isListening named
    rw [asked, map_eq_pure_bind]
    exact (spares_of_reads (reads_run rfl _ _)).bind (fun _ => spares_pure _) world

theorem spares_wakeUp (other : part ≠ .conversation) : Spares part Event.wakeUp := by
  refine spares_isListening.bind fun listening => ?_
  split
  · exact spares_pure _
  · exact (spares_write other _ _).bind fun _ => spares_pure _

theorem spares_note (other : part ≠ .conversation) (text language : Text) : Spares part (do
    if !text.isEmpty then
      addLine "user" text
      write Memory.lastHeard (.text text)
      write Memory.lastLanguage (.text language)
      write Memory.interactionState (.text "asrReceived")
    tell .finishConversation) := by
  have ended : Spares part (tell .finishConversation) := spares_tell (by simp [Part.ofAction?])
  split
  · exact (spares_addLine other _ _).bind fun _ => (spares_write other _ _).bind fun _ =>
      (spares_write other _ _).bind fun _ => (spares_write other _ _).bind fun _ => ended
  · exact ended

theorem spares_hear (other : part ≠ .conversation) (other' : part ≠ .registry)
    (text language : Text) : Spares part (Event.hear text language) :=
  (spares_askRecognizer? other').bind fun _ => spares_note other text language

theorem refits_hear (text language : Text) :
    Refits Event.recognizer (Capability.recognition false).operations
      (Event.hear text language) :=
  refits_askRecognizer?.bind fun _ => refits_of_spares (spares_note (by simp) text language)

/-! Retiring. -/

theorem retire_motion (receiver : Text) (state : Motion) (world : World) :
    retire receiver (.motion state) world =
      .ok () { world with
        registry := install receiver (.motion .stationary) world.registry
        robot := world.robot.act .stopMovement } := rfl

/-- What does not move is retired with no effect. -/
theorem retire_of_not_motion {capability : Capability} (still : ∀ state, capability ≠ .motion state)
    (receiver : Text) (world : World) : reached (retire receiver capability world) = world := by
  cases capability with
  | motion state => exact absurd rfl (still state)
  | probe probe =>
      rcases probe with ⟨name, gives, fails, watched⟩
      cases fails <;> rfl
  | _ => rfl

/-- The world after one capability of it was retired, which may have failed. -/
def retired (world : World) (entry : Text × Capability) : World :=
  match retire entry.1 entry.2 world with
  | .ok _ world => world
  | .error failure world =>
    record ⟨.warning, registryChannel,
      "Cleanup failed for " ++ entry.1 ++ ": " ++ failure.report⟩ world

/-- Retiring all capabilities never fails, and none that fails keeps the others from it. -/
theorem cleanup_eq (world : World) :
    cleanup world = .ok () (world.registry.foldl retired world) := by
  have all (registry : Registry) : retireAll registry world =
      .ok () (registry.foldl retired world) := by
    induction registry generalizing world with
    | nil => rfl
    | cons entry rest induction =>
        rw [List.foldl_cons, ← induction]
        change EStateM.bind (attempt (retire entry.1 entry.2)) _ world = _
        unfold EStateM.bind attempt retired
        cases retire entry.1 entry.2 world <;> rfl
  exact all world.registry

theorem untouched_retired_of_not_motion {entry : Text × Capability}
    (still : ∀ state, entry.2 ≠ .motion state) (world : World) :
    Untouched part world (world.retired entry) := by
  have reaches := retire_of_not_motion still entry.1 world
  unfold retired
  split
  · rename_i done
    rw [done] at reaches
    exact reaches ▸ .refl part _
  · rename_i failed
    rw [failed] at reaches
    exact reaches ▸ spares_record _ _

section Reserved

variable {name receiver : Text} {kind : Capability}

/-- A name stays reserved when what it is reserved for or something else is retired. -/
theorem Reserved.retired {entry : Text × Capability} (reserved : Reserved name kind world)
    (fits : entry.1 = name ↔ entry.2.operations = kind.operations) :
    Reserved name kind (world.retired entry) := by
  rcases entry with ⟨receiver, capability⟩
  by_cases moves : ∃ state, capability = .motion state
  · obtain ⟨state, rfl⟩ := moves
    have stopped : receiver = name ↔
        (Capability.motion .stationary).operations = kind.operations := fits
    exact reserved.of_install stopped rfl
  · have still : ∀ state, capability ≠ .motion state := fun state same => moves ⟨state, same⟩
    exact reserved.of_eq (untouched_retired_of_not_motion still world).registry_eq

theorem Reserved.keeps_cleanup : Act.Keeps (Reserved name kind) cleanup := by
  intro world reserved
  rw [cleanup_eq]
  exact List.foldlRecOn world.registry World.retired reserved fun between holds entry member =>
    holds.retired (reserved.sole entry member)

end Reserved

theorem spares_cleanup (other : part ≠ .registry) (other' : part ≠ .movement) :
    Spares part cleanup := by
  intro world
  rw [cleanup_eq]
  refine List.foldlRecOn world.registry World.retired (.refl part world)
    fun between holds entry member => holds.trans ?_
  rcases entry with ⟨receiver, capability⟩
  by_cases moves : ∃ state, capability = .motion state
  · obtain ⟨state, rfl⟩ := moves
    exact spares_move other other' receiver .stationary rfl between
  · exact untouched_retired_of_not_motion (fun state same => moves ⟨state, same⟩) between

/-! Registering. -/

/-- The name under which a capability is registered. -/
def receiverOf (name : Text) (capability : Capability) : Text :=
  if name.isEmpty then capability.name else name

/-- The world after the capability that has a name was retired. -/
def vacated (receiver : Text) (world : World) : World :=
  match world.capability? receiver with
  | some old => reached (retire receiver old world)
  | none => world

theorem register_eq (name : Text) (capability : Capability) (world : World) :
    register name capability world =
      if (receiverOf name capability).isEmpty then .error .nameless world
      else match world.capability? (receiverOf name capability) with
        | none => setCapability (receiverOf name capability) capability world
        | some old => (do
            retire (receiverOf name capability) old
            setCapability (receiverOf name capability) capability)
          (record ⟨.warning, registryChannel,
            "Replacing capability: " ++ receiverOf name capability⟩ world) := by
  unfold register
  change (ite ((receiverOf name capability).isEmpty = true) _ _ : Action Unit) world = _
  split
  · rfl
  · change (match world.capability? (receiverOf name capability) with
      | none => _
      | some old => _ : Action Unit) world = _
    cases world.capability? (receiverOf name capability) <;> rfl

/-- A registration leaves all as it is, or it puts a capability in the place of the one that
has the name, which is retired. -/
theorem register_cases (name : Text) (capability : Capability) (world : World) :
    (∀ part, Untouched part world (reached (register name capability world))) ∨
      (reached (register name capability world)).registry =
          install (receiverOf name capability) capability world.registry ∧
        ∀ part ≠ .registry, Untouched part (world.vacated (receiverOf name capability))
          (reached (register name capability world)) := by
  rw [register_eq, vacated]
  generalize receiverOf name capability = receiver
  by_cases nameless : receiver.isEmpty = true
  · rw [if_pos nameless]
    exact .inl fun part => .refl part world
  rw [if_neg nameless]
  cases known : world.capability? receiver with
  | none => exact .inr ⟨rfl, fun part other => spares_setCapability other receiver capability world⟩
  | some old =>
      dsimp only
      -- what moves is retired without failure, and all else is retired without any other effect
      generalize logging : LogEntry.mk .warning registryChannel _ = entry
      by_cases moves : ∃ state, old = .motion state
      · obtain ⟨state, rfl⟩ := moves
        rw [retire_motion]
        refine .inr ⟨install_install receiver _ _ world.registry, fun part other => ?_⟩
        exact (spares_record entry _).trans (untouched_setRegistry other _ _)
      · have still : ∀ state, old ≠ .motion state := fun state same => moves ⟨state, same⟩
        have stays := retire_of_not_motion still receiver (record entry world)
        rw [retire_of_not_motion still receiver world]
        cases done : retire receiver old (record entry world) with
        | error failure after =>
            rw [done] at stays
            rw [Act.bind_of_error _ done, show after = record entry world from stays]
            exact .inl fun part => spares_record entry world
        | ok _ after =>
            rw [done] at stays
            rw [Act.bind_of_ok _ done, show after = record entry world from stays]
            refine .inr ⟨rfl, fun part other => ?_⟩
            exact (spares_record entry world).trans (spares_setCapability other receiver _ _)

theorem spares_register (other : part ≠ .registry) (other' : part ≠ .movement) (name : Text)
    (capability : Capability) : Spares part (register name capability) := by
  intro world
  rcases register_cases name capability world with same | ⟨_, untouched⟩
  · exact same part
  refine Untouched.trans ?_ (untouched part other)
  unfold vacated
  split
  · rename_i old known
    by_cases moves : ∃ state, old = .motion state
    · obtain ⟨state, rfl⟩ := moves
      exact spares_move other other' _ .stationary rfl world
    · rw [retire_of_not_motion fun state same => moves ⟨state, same⟩]
      exact .refl part world
  · exact .refl part world

theorem Reserved.keeps_register {name given : Text} {kind capability : Capability}
    (fits : receiverOf given capability = name ↔ capability.operations = kind.operations) :
    Act.Keeps (Reserved name kind) (register given capability) := by
  intro world reserved
  rcases register_cases given capability world with same | ⟨installed, _⟩
  · exact reserved.of_eq (same .registry).registry_eq
  · exact reserved.of_install fits installed

end World

end RobotRules
