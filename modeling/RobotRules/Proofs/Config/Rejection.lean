import RobotRules.Proofs.Config.Reloading

/-! Files that are not read to their end. If a file is no JSON, or its first section cannot be
read, all is as if there were no file. But sections are put in force one by one, so those in front
of a section that cannot be read stay in force. Which settings are then other than without the
file can be told one by one: those that the sections in front change and the environment does not
overrule. -/

namespace RobotRules.Config

/-! Settings one by one. -/

/-- One setting, and the value that the environment overrules it with, if it does. -/
structure Setting where
  value : Config → Json
  given? : Environment → Option Json

/-- All settings in the order of the file. -/
def allSettings : List Setting := [
  ⟨(·.loop.tickInterval), (given? · "RULEBOT_TICK_INTERVAL_MS" readInteger)⟩,
  ⟨(·.loop.speechReceiver), fun _ => none⟩,
  ⟨(·.loop.speechMethod), fun _ => none⟩,
  ⟨(·.loop.initialState), fun _ => none⟩,
  ⟨(·.rules.path), (given? · "RULEBOT_RULES_PATH" asText)⟩,
  ⟨(·.rules.address), (given? · "RULEBOT_RULES_URL" asText)⟩,
  ⟨(·.rules.connectTimeout), fun _ => none⟩,
  ⟨(·.rules.readTimeout), fun _ => none⟩,
  ⟨(·.robot.speechDelayScale), (given? · "RULEBOT_SPEECH_DELAY_SCALE" readFloat)⟩,
  ⟨(.list ·.robot.locations), fun _ => none⟩,
  ⟨(·.assistant.address), givenAddress?⟩,
  ⟨(·.assistant.token), givenToken?⟩,
  ⟨(·.assistant.model), givenModel?⟩,
  ⟨(·.assistant.timeout), fun _ => none⟩,
  ⟨(·.server.host), (given? · "RULEBOT_HOST" asText)⟩,
  ⟨(·.server.port), (given? · "RULEBOT_PORT" readInteger)⟩,
  ⟨(·.server.logLevel), (given? · "RULEBOT_LOG_LEVEL" asText)⟩]

variable {environment : Environment} {config other : Config}

/-- Settings are the same if each of them is, and the same came from the environment. -/
theorem eq_iff_allSettings : config = other ↔
    config.fromEnvironment = other.fromEnvironment ∧
      ∀ setting ∈ allSettings, setting.value config = setting.value other := by
  constructor
  · rintro rfl
    exact ⟨rfl, fun _ _ => rfl⟩
  · rintro ⟨environment, each⟩
    rcases config with ⟨⟨⟩, ⟨⟩, ⟨⟩, ⟨⟩, ⟨⟩, _⟩
    rcases other with ⟨⟨⟩, ⟨⟩, ⟨⟩, ⟨⟩, ⟨⟩, _⟩
    simp only [allSettings, List.forall_mem_cons, Json.list.injEq] at each
    simp_all

theorem value_overridden (environment : Environment) (config : Config) :
    ∀ setting ∈ allSettings, setting.value (overridden environment config) =
      (setting.given? environment).getD (setting.value config) := by
  simp only [allSettings, List.forall_mem_cons]
  simp [overridden]

/-- What the environment overrules makes no difference, and all else does. -/
theorem overridden_eq_iff (same : config.fromEnvironment = other.fromEnvironment) :
    overridden environment config = overridden environment other ↔
      ∀ setting ∈ allSettings, setting.given? environment = none →
        setting.value config = setting.value other := by
  have origin : (overridden environment config).fromEnvironment =
      (overridden environment other).fromEnvironment := by
    simp only [overridden, same]
  rw [eq_iff_allSettings, and_iff_right origin]
  refine forall₂_congr fun setting member => ?_
  rw [value_overridden environment config setting member,
    value_overridden environment other setting member]
  cases setting.given? environment <;> simp

/-! How far a file is read. -/

/-- What the readable beginning of a text sets: nothing if it is no JSON, and else the sections in
front of the first one that cannot be read. -/
inductive LeavesOff (text : Text) : Config → Prop
  | malformed {problem : Json.Problem} {rest : Text} :
      Json.read (Text.normalizeLines text) = .error (.malformed problem rest) → LeavesOff text {}
  | within {file : Json} {kept : Config} {typeName : Text}
      {earlier later : List (Json → Config → Except SectionError Config)}
      {read : Json → Config → Except SectionError Config} :
      Json.read (Text.normalizeLines text) = .ok file → sections = earlier ++ read :: later →
      readSections file {} earlier = (kept, none) →
      read file kept = .error (.noSettings typeName) → LeavesOff text kept

theorem exists_of_readSections {file : Json} {config kept : Config} {error : SectionError}
    {readers : List (Json → Config → Except SectionError Config)}
    (stopped : readSections file config readers = (kept, some error)) :
    ∃ earlier read later, readers = earlier ++ read :: later ∧
      readSections file config earlier = (kept, none) ∧ read file kept = .error error := by
  induction readers generalizing config with
  | nil => cases stopped
  | cons read rest induction =>
      rw [readSections] at stopped
      cases found : read file config with
      | error _ =>
          rw [found] at stopped
          cases stopped
          exact ⟨[], read, rest, rfl, rfl, found⟩
      | ok config' =>
          rw [found] at stopped
          rcases induction stopped with ⟨earlier, stops, later, rfl, went, failed⟩
          refine ⟨read :: earlier, stops, later, rfl, ?_, failed⟩
          rw [readSections, found]
          exact went

theorem leavesOff_of_ofFile {text : Text} {loaded : Loaded} (found : ofFile text = .ok loaded)
    (told : loaded.warning?.isSome = true) : LeavesOff text loaded.config := by
  unfold ofFile at found
  dsimp only at found
  split at found
  · cases found
  · rename_i notJson
    cases found
    exact .malformed notJson
  · rename_i file isJson
    split at found
    · cases found
      cases told
    · cases found
    · rename_i config typeName stopped
      cases found
      rcases exists_of_readSections stopped with ⟨earlier, read, later, split, went, failed⟩
      exact .within isJson split went failed

/-- Where not even the first section can be read, nothing is set. -/
theorem LeavesOff.eq_default {text : Text} {kept : Config} (leavesOff : LeavesOff text kept)
    (first : ∀ file, Json.read (Text.normalizeLines text) = .ok file →
      ∃ error, readLoop file {} = .error error) : kept = {} := by
  cases leavesOff with
  | malformed => rfl
  | @within file _ _ earlier later read isJson split went failed =>
      rcases first file isJson with ⟨error, unread⟩
      cases earlier with
      | nil => exact (Prod.mk.inj went).1.symm
      | cons begins rest =>
          obtain rfl : readLoop = begins := (List.cons.inj split).1
          rw [readSections, unread] at went
          cases went

theorem exists_of_load_warning {text : Text} {loaded : Loaded}
    (found : load (some text) environment = .ok loaded) (told : loaded.warning?.isSome = true) :
    ∃ kept, LeavesOff text kept ∧ kept.fromEnvironment = {} ∧
      overrideAll environment kept = .ok loaded.config := by
  rcases Result.bind_eq_ok_iff.mp found with ⟨fromFile, isFile, overruling⟩
  rcases Result.bind_eq_ok_iff.mp overruling with ⟨config, overruled, same⟩
  cases same
  exact ⟨fromFile.config, leavesOff_of_ofFile isFile told, (writable_ofFile isFile).2, overruled⟩

/-- If it is told that a file cannot be read, then the sections in front of the first one that
cannot be read are in force all the same. So the settings are those without a file if and only if
these sections change no setting but such as the environment overrules; and they are if the file
is no JSON or its first section cannot be read. What came from the environment is the same in any
case. -/
theorem load_of_warning {text : Text} {loaded : Loaded}
    (found : load (some text) environment = .ok loaded) (told : loaded.warning?.isSome = true) :
    ∃ bare kept, load none environment = .ok bare ∧ LeavesOff text kept ∧
      loaded.config = overridden environment kept ∧
      loaded.config.fromEnvironment = bare.config.fromEnvironment ∧
      (loaded.config = bare.config ↔ ∀ setting ∈ allSettings,
        setting.given? environment = none → setting.value kept = setting.value {}) ∧
      ((∀ file, Json.read (Text.normalizeLines text) = .ok file →
        ∃ error, readLoop file {} = .error error) → loaded.config = bare.config) := by
  rcases exists_of_load_warning found told with ⟨kept, leavesOff, fresh, overruled⟩
  have effect := overrideAll_eq_ok overruled
  have withFile : loaded.config = overridden environment kept :=
    Except.ok.inj (overruled.symm.trans (effect kept))
  have withoutFile : load none environment = .ok ⟨overridden environment {}, none⟩ := by
    simp only [load, bind, Except.bind, effect {}]
    rfl
  refine ⟨_, kept, withoutFile, leavesOff, withFile, ?_, ?_, fun first => ?_⟩
  · rw [withFile]
    simp only [overridden, fresh]
  · rw [withFile]
    exact overridden_eq_iff fresh
  · rw [withFile, leavesOff.eq_default first]

/-- The first section is a list, so the port in the last one does not count. -/
theorem load_of_warning_first_section :
    let file : Text := "\x7b\"loop\": [], \"server\": \x7b\"port\": 9000\x7d\x7d"
    ∃ loaded bare, load (some file) [] = .ok loaded ∧ loaded.warning?.isSome = true ∧
      load none [] = .ok bare ∧ loaded.config = bare.config := by
  intro file
  have rejected : (load (some file) []).toOption.any (·.warning?.isSome) = true := by
    decide +kernel
  have first : ∀ value, Json.read (Text.normalizeLines file) = .ok value →
      ∃ error, readLoop value {} = .error error := by
    have unread : (Json.read (Text.normalizeLines file)).toOption.all
        (fun value => (readLoop value {}).toOption.isNone) = true := by decide +kernel
    intro value isJson
    rw [isJson] at unread
    change (readLoop value {}).toOption.isNone = true at unread
    cases read : readLoop value {} with
    | error error => exact ⟨error, rfl⟩
    | ok config =>
        rw [read] at unread
        cases unread
  rcases Result.exists_of_toOption_any rejected with ⟨loaded, found, told⟩
  rcases load_of_warning found told with ⟨bare, _, without, _, _, _, _, same⟩
  exact ⟨loaded, bare, found, told, without, same first⟩

/-- The second section is a list, and the interval of the first one stays in force. -/
theorem not_load_of_warning_half_read :
    let file : Text := "\x7b\"loop\": \x7b\"tick_interval_ms\": 50\x7d, \"rules\": []\x7d"
    ∃ loaded bare, load (some file) [] = .ok loaded ∧ loaded.warning?.isSome = true ∧
      load none [] = .ok bare ∧ loaded.config ≠ bare.config := by
  intro file
  have halfWay : (load (some file) []).toOption.any (fun loaded =>
      loaded.warning?.isSome &&
        Json.write loaded.config.loop.tickInterval == "50".toList) = true := by
    decide +kernel
  have without : load none [] = .ok ⟨{}, none⟩ := rfl
  rcases Result.exists_of_toOption_any halfWay with ⟨loaded, found, seen⟩
  have told := Bool.and_eq_true_iff.mp seen
  refine ⟨loaded, _, found, told.1, without, fun same => ?_⟩
  have interval := eq_of_beq told.2
  rw [same] at interval
  exact absurd interval (by decide)

end RobotRules.Config
