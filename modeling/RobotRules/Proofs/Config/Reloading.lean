import RobotRules.Proofs.Config.Environment
import RobotRules.Proofs.Json.Reading

/-! Saving and reloading settings. Whatever a file and an environment give can be written to a
file, and that file gives the same settings in the same environment. -/

namespace RobotRules.Config

open Json (IsWritable HasNames isWritable_ofText)

/-! Settings that can be written. -/

/-- All settings can be written as JSON. -/
structure Writable (config : Config) : Prop where
  loop : ∀ value ∈ [config.loop.tickInterval, config.loop.speechReceiver,
    config.loop.speechMethod, config.loop.initialState], IsWritable value
  rules : ∀ value ∈ [config.rules.path, config.rules.address, config.rules.connectTimeout,
    config.rules.readTimeout], IsWritable value
  robot : ∀ value ∈ [config.robot.speechDelayScale, .list config.robot.locations], IsWritable value
  assistant : ∀ value ∈ [config.assistant.address, config.assistant.token,
    config.assistant.model, config.assistant.timeout], IsWritable value
  server : ∀ value ∈ [config.server.host, config.server.port, config.server.logLevel],
    IsWritable value

theorem hasNames_of_map {members : List (Points × Json)} {names : List Text}
    (equal : members.map Prod.fst = names.map Text.points) (distinct : names.Nodup) :
    HasNames members := by
  constructor
  · intro member inMembers
    have inNames : member.1 ∈ names.map Text.points := equal ▸ List.mem_map_of_mem inMembers
    rcases List.mem_map.mp inNames with ⟨name, _, same⟩
    exact same ▸ Json.isSettled_points name
  · rw [equal]
    exact distinct.map (List.map_injective_iff.mpr fun _ _ same => Point.char.inj same)

theorem isWritable_sectionOf {settings : List (Text × Json)}
    (each : ∀ value ∈ settings.map Prod.snd, IsWritable value)
    (distinct : (settings.map Prod.fst).Nodup) (name : Text) :
    IsWritable (sectionOf name settings).2 := by
  refine .object (hasNames_of_map ?_ distinct) ?_
  · simp
  · intro member inMembers
    rcases List.mem_map.mp inMembers with ⟨setting, inSettings, rfl⟩
    exact each setting.2 (List.mem_map_of_mem inSettings)

theorem isWritable_toJsonWith {config : Config} (writable : config.Writable) {token : Json}
    (tokenWritable : IsWritable token) : IsWritable (config.toJsonWith token) := by
  have assistant : ∀ value ∈ [config.assistant.address, token, config.assistant.model,
      config.assistant.timeout], IsWritable value := by
    have others := writable.assistant
    simp only [List.forall_mem_cons] at others ⊢
    exact ⟨others.1, tokenWritable, others.2.2⟩
  unfold toJsonWith
  refine .object (@hasNames_of_map _ ["loop".toList, "rules".toList, "robot".toList,
    "assistant".toList, "server".toList] rfl (by decide)) ?_
  simp only [List.forall_mem_cons]
  refine ⟨isWritable_sectionOf ?loop ?_ _, isWritable_sectionOf ?rules ?_ _,
    isWritable_sectionOf ?robot ?_ _, isWritable_sectionOf ?assistant ?_ _,
    isWritable_sectionOf ?server ?_ _, by simp⟩
  case loop => exact writable.loop
  case rules => exact writable.rules
  case robot => exact writable.robot
  case assistant => exact assistant
  case server => exact writable.server
  -- no section has two settings of one name
  all_goals
    simp only [List.map_cons, List.map_nil]
    decide

/-! What a file gives. -/

theorem writable_default : Writable {} := by
  constructor
  all_goals simp only [List.forall_mem_cons]
  · exact ⟨.integer (by decide), isWritable_ofText _, isWritable_ofText _, isWritable_ofText _,
      by simp⟩
  · exact ⟨isWritable_ofText _, isWritable_ofText _, .float _, .float _, by simp⟩
  · exact ⟨.float _, .list (List.forall_mem_singleton.mpr (isWritable_ofText _)), by simp⟩
  · exact ⟨isWritable_ofText _, isWritable_ofText _, isWritable_ofText _, .float _, by simp⟩
  · exact ⟨isWritable_ofText _, .integer (by decide), isWritable_ofText _, by simp⟩

theorem mem_of_member? {settings : List (Points × Json)} {name : Points} {value : Json}
    (found : Json.member? name settings = some value) : (name, value) ∈ settings := by
  rcases List.lookup_eq_some_iff.mp found with ⟨before, after, rfl, _⟩
  simp

theorem isWritable_getD_member? {settings : List (Points × Json)}
    (writable : IsWritable (.object settings)) (name : Points) {default : Json}
    (defaultWritable : IsWritable default) :
    IsWritable ((Json.member? name settings).getD default) := by
  cases writable with
  | object _ each =>
      cases found : Json.member? name settings with
      | none => exact defaultWritable
      | some value => exact each _ (mem_of_member? found)

theorem isWritable_settings? {file : Json} (writable : IsWritable file) {name : Text}
    {settings : List (Points × Json)} (found : settings? name file = .ok settings) :
    IsWritable (.object settings) := by
  unfold settings? at found
  split at found
  · have isSection := isWritable_getD_member? writable name.points Json.isWritable_empty
    split at found
    · rename_i equal
      rwa [equal, Except.ok.inj found] at isSection
    · cases found
  · cases found

theorem isWritable_itemsOf? {value : Json} (writable : IsWritable value) {items : List Json}
    (found : itemsOf? value = some items) : IsWritable (.list items) := by
  cases writable with
  | list each => exact Option.some.inj found ▸ .list each
  | string settled =>
      rw [← Option.some.inj found]
      refine .list fun item member => ?_
      rcases List.mem_map.mp member with ⟨point, _, rfl⟩
      exact .string (Json.isSettled_singleton point)
  | object names _ =>
      rw [← Option.some.inj found]
      refine .list fun item member => ?_
      rcases List.mem_map.mp member with ⟨entry, inEntries, rfl⟩
      exact .string (names.settled entry inEntries)
  | _ => cases found

/-- A section that can be read gives settings that can be written. -/
theorem writable_of_read {file : Json} (writes : IsWritable file) {config : Config}
    (writable : config.Writable) : ∀ read ∈ sections, ∀ {config' : Config},
      read file config = .ok config' →
        config'.Writable ∧ config'.fromEnvironment = config.fromEnvironment := by
  have given {name part : Text} {settings : List (Points × Json)} {default : Json}
      (found : settings? part file = .ok settings) (defaultWritable : IsWritable default) :
      IsWritable (setting settings name default) :=
    isWritable_getD_member? (isWritable_settings? writes found) _ defaultWritable
  simp only [sections, List.forall_mem_cons]
  refine ⟨?_, ?_, ?_, ?_, ?_, by simp⟩
  · intro config' read
    rcases Result.bind_eq_ok_iff.mp read with ⟨settings, found, read⟩
    cases read
    refine ⟨{ writable with loop := ?_ }, rfl⟩
    simp only [List.forall_mem_cons]
    exact ⟨given found (.integer (by decide)), given found (isWritable_ofText _),
      given found (isWritable_ofText _), given found (isWritable_ofText _), by simp⟩
  · intro config' read
    rcases Result.bind_eq_ok_iff.mp read with ⟨settings, found, read⟩
    cases read
    refine ⟨{ writable with rules := ?_ }, rfl⟩
    simp only [List.forall_mem_cons]
    exact ⟨given found (isWritable_ofText _), given found (isWritable_ofText _),
      given found (.float _), given found (.float _), by simp⟩
  · intro config' read
    rcases Result.bind_eq_ok_iff.mp read with ⟨settings, found, read⟩
    dsimp only at read
    split at read
    · cases read
    · rename_i locations isList
      cases read
      refine ⟨{ writable with robot := ?_ }, rfl⟩
      have homeWritable : IsWritable (.list ({} : RobotConfig).locations) :=
        .list (List.forall_mem_singleton.mpr (isWritable_ofText _))
      simp only [List.forall_mem_cons]
      exact ⟨given found (.float _), isWritable_itemsOf? (given found homeWritable) isList,
        by simp⟩
  · intro config' read
    rcases Result.bind_eq_ok_iff.mp read with ⟨settings, found, read⟩
    cases read
    refine ⟨{ writable with assistant := ?_ }, rfl⟩
    simp only [List.forall_mem_cons]
    exact ⟨given found (isWritable_ofText _), given found (isWritable_ofText _),
      given found (isWritable_ofText _), given found (.float _), by simp⟩
  · intro config' read
    rcases Result.bind_eq_ok_iff.mp read with ⟨settings, found, read⟩
    cases read
    refine ⟨{ writable with server := ?_ }, rfl⟩
    simp only [List.forall_mem_cons]
    exact ⟨given found (isWritable_ofText _), given found (.integer (by decide)),
      given found (isWritable_ofText _), by simp⟩

theorem writable_readSections {file : Json} (writes : IsWritable file)
    {readers : List (Json → Config → Except SectionError Config)} (known : readers ⊆ sections)
    {config : Config} (writable : config.Writable) :
    (readSections file config readers).1.Writable ∧
      (readSections file config readers).1.fromEnvironment = config.fromEnvironment := by
  induction readers generalizing config with
  | nil => exact ⟨writable, rfl⟩
  | cons read others induction =>
      rw [readSections]
      cases found : read file config with
      | error error => exact ⟨writable, rfl⟩
      | ok config' =>
          have next := writable_of_read writes writable read (known (by simp)) found
          have rest := induction (List.subset_of_cons_subset known) next.1
          exact ⟨rest.1, rest.2.trans next.2⟩

theorem writable_ofFile {text : Text} {loaded : Loaded} (found : ofFile text = .ok loaded) :
    loaded.config.Writable ∧ loaded.config.fromEnvironment = {} := by
  unfold ofFile at found
  dsimp only at found
  split at found
  · cases found
  · cases found
    exact ⟨writable_default, rfl⟩
  · rename_i file isFile
    have fileWritable := Json.isWritable_of_read isFile
    have read := writable_readSections fileWritable (List.Subset.refl sections) writable_default
    split at found
    · rename_i config equal
      cases found
      rwa [equal] at read
    · cases found
    · rename_i config typeName equal
      cases found
      rwa [equal] at read

/-! What the environment gives. -/

section Environment

variable (environment : Environment)

theorem isWritable_getD_given? {name : Text} {read : Spelling → Except Failure Json}
    (reads : ∀ {spelling value}, read spelling = .ok value → IsWritable value) {default : Json}
    (defaultWritable : IsWritable default) :
    IsWritable ((given? environment name read).getD default) := by
  cases found : given? environment name read with
  | none => exact defaultWritable
  | some value =>
      rcases Option.bind_eq_some_iff.mp found with ⟨spelling, _, isValue⟩
      exact reads (Result.toOption_eq_some_iff.mp isValue)

theorem isWritable_readInteger {spelling : Spelling} {value : Json}
    (read : readInteger spelling = .ok value) : IsWritable value := by
  unfold readInteger at read
  split at read
  · rename_i number found
    rcases Option.bind_eq_some_iff.mp found with ⟨text, _, spelled⟩
    exact Except.ok.inj read ▸ .integer (Number.isWritable_of_readInteger? spelled)
  · cases read

theorem isWritable_readFloat {spelling : Spelling} {value : Json}
    (read : readFloat spelling = .ok value) : IsWritable value := by
  unfold readFloat at read
  split at read
  · exact Except.ok.inj read ▸ .float _
  · exact Except.ok.inj read ▸ .nan
  · cases read

/-- A byte that belongs to no character is never half of one. -/
theorem isSettled_points (spelling : Spelling) : Json.IsSettled spelling.points := by
  induction spelling with
  | nil => exact .nil
  | cons piece rest settled =>
      refine settled.cons fun point _ => ?_
      cases piece with
      | char => trivial
      | stray => trivial

theorem isWritable_asText {spelling : Spelling} {value : Json}
    (read : asText spelling = .ok value) : IsWritable value :=
  Except.ok.inj read ▸ .string (isSettled_points spelling)

theorem writable_overridden {config : Config} (writable : config.Writable) :
    (overridden environment config).Writable := by
  rcases writable with ⟨loop, rules, robot, assistant, server⟩
  simp only [List.forall_mem_cons] at loop rules robot assistant server
  constructor
  all_goals simp only [overridden, List.forall_mem_cons]
  · exact ⟨isWritable_getD_given? environment isWritable_readInteger loop.1, loop.2⟩
  · exact ⟨isWritable_getD_given? environment isWritable_asText rules.1,
      isWritable_getD_given? environment isWritable_asText rules.2.1, rules.2.2⟩
  · exact ⟨isWritable_getD_given? environment isWritable_readFloat robot.1, robot.2⟩
  · refine ⟨isWritable_getD_given? environment isWritable_asText assistant.1, ?_,
      isWritable_getD_given? environment isWritable_asText assistant.2.2.1, assistant.2.2.2⟩
    rw [givenToken?, Option.getD_or]
    exact isWritable_getD_given? environment isWritable_asText
      (isWritable_getD_given? environment isWritable_asText assistant.2.1)
  · exact ⟨isWritable_getD_given? environment isWritable_asText server.1,
      isWritable_getD_given? environment isWritable_readInteger server.2.1,
      isWritable_getD_given? environment isWritable_asText server.2.2.1, by simp⟩

end Environment

/-! Saving and reloading. -/

/-- What a file keeps of settings: all but a token from the environment, and not what came from
there. -/
def stored (config : Config) : Config :=
  { config with
    assistant := { config.assistant with
      token := if config.fromEnvironment.token then "" else config.assistant.token }
    fromEnvironment := {} }

theorem normalizeLines_of_not_mem {text : Text} (absent : '\r' ∉ text) :
    Text.normalizeLines text = text := by
  induction text with
  | nil => rfl
  | cons c others induction =>
      simp only [List.mem_cons, not_or] at absent
      rw [Text.normalizeLines, induction absent.2]
      · rintro rest rfl
        exact absurd rfl absent.1
      · rintro rfl
        exact absurd rfl absent.1

/-- A file that was written gives what it keeps. -/
theorem ofFile_toFile {config : Config} (writable : config.Writable) :
    ofFile config.toFile = .ok ⟨config.stored, none⟩ := by
  let token : Json := if config.fromEnvironment.token then "" else config.assistant.token
  have tokenWritable : IsWritable token := by
    simp only [token]
    split_ifs
    · exact isWritable_ofText _
    · exact writable.assistant _ (by simp)
  have read : Json.read config.toFile = .ok (config.toJsonWith token) :=
    Json.read_write (isWritable_toJsonWith writable tokenWritable)
  have lines : Text.normalizeLines config.toFile = config.toFile := by
    refine normalizeLines_of_not_mem fun member => ?_
    have plain := Json.isPlain_write (config.toJsonWith token) '\r' member
    revert plain
    unfold Json.IsPlain
    decide
  have sectionsRead : readSections (config.toJsonWith token) {} sections =
      (config.stored, none) := rfl
  unfold ofFile
  rw [lines]
  dsimp only
  rw [read]
  dsimp only
  rw [sectionsRead]

/-- The values of the environment take the same places again. -/
theorem overridden_stored (environment : Environment) {config : Config}
    (fresh : config.fromEnvironment = {}) :
    overridden environment (overridden environment config).stored =
      overridden environment config := by
  have again : ∀ (given? : Option Json) (value : Json),
      given?.getD (given?.getD value) = given?.getD value := by
    intro given? value
    cases given? <;> rfl
  unfold overridden stored
  simp only [again, fresh, Bool.false_or]
  -- a token is left out only if the environment puts it back
  cases givenToken? environment <;> simp

/-- What is loaded is what the file gives, overruled by the environment. -/
theorem load_eq_ok {file : Option Text} {environment : Environment} {loaded : Loaded}
    (found : load file environment = .ok loaded) : ∃ config : Config, config.Writable ∧
      config.fromEnvironment = {} ∧ overrideAll environment config = .ok loaded.config := by
  unfold load at found
  cases file with
  | none =>
      rcases Result.bind_eq_ok_iff.mp found with ⟨fromFile, isFile, found⟩
      rcases Result.bind_eq_ok_iff.mp found with ⟨config, overruled, found⟩
      cases isFile
      cases found
      exact ⟨{}, writable_default, rfl, overruled⟩
  | some text =>
      rcases Result.bind_eq_ok_iff.mp found with ⟨fromFile, isFile, found⟩
      rcases Result.bind_eq_ok_iff.mp found with ⟨config, overruled, found⟩
      cases found
      have good := writable_ofFile isFile
      exact ⟨fromFile.config, good.1, good.2, overruled⟩

/-- Settings that were loaded can be saved and loaded again in the same environment, without a
warning and without a change. Saving them once more writes the same file. -/
theorem load_toFile {file : Option Text} {environment : Environment} {loaded : Loaded}
    (found : load file environment = .ok loaded) : ∃ again,
      load (some loaded.config.toFile) environment = .ok again ∧ again.warning? = none ∧
        again.config = loaded.config ∧ again.config.toFile = loaded.config.toFile := by
  rcases load_eq_ok found with ⟨config, writable, fresh, overruled⟩
  have effect := overrideAll_eq_ok overruled
  have result : loaded.config = overridden environment config :=
    Except.ok.inj (overruled.symm.trans (effect config))
  have reread : ofFile loaded.config.toFile = .ok ⟨loaded.config.stored, none⟩ :=
    ofFile_toFile (result ▸ writable_overridden environment writable)
  have overruledAgain : overrideAll environment loaded.config.stored = .ok loaded.config := by
    rw [effect, result, overridden_stored environment fresh]
  refine ⟨⟨loaded.config, none⟩, ?_, rfl, rfl, rfl⟩
  unfold load
  simp only [reread, bind, Except.bind, overruledAgain]
  rfl

/-- A file that is not read to its end, since the second section is a list, and an environment
with a token. One setting is half of a surrogate pair, another one a byte that is no character. -/
theorem load_toFile_half_way :
    let file : Text := "\x7b\"loop\": \x7b\"tick_interval_ms\": 1e2, \"speech_method\": \"\\ud800\",
      \"initial_state\": [\"\\u00e9\\n\\ud83d\\ude00\",
        \x7b\"a\": -0.0, \"b\": 7, \"a\": NaN\x7d]\x7d, \"rules\": []\x7d"
    let environment : Environment :=
      [("HF_API_TOKEN", "secret"), ("RULEBOT_PORT", " 1_0 "), ("RULEBOT_HOST", [.stray 0x69])]
    ∃ loaded again, load (some file) environment = .ok loaded ∧ loaded.warning?.isSome = true ∧
      loaded.config.fromEnvironment.token = true ∧
      Json.write loaded.config.loop.speechMethod = "\"\\ud800\"" ∧
      load (some loaded.config.toFile) environment = .ok again ∧ again.warning? = none ∧
        again.config = loaded.config ∧ again.config.toFile = loaded.config.toFile := by
  intro file environment
  have halfWay : (load (some file) environment).toOption.any (fun loaded =>
      loaded.warning?.isSome && loaded.config.fromEnvironment.token &&
        Json.write loaded.config.loop.speechMethod == "\"\\ud800\"".toList) = true := by
    decide +kernel
  cases found : load (some file) environment with
  | error failure =>
      rw [found] at halfWay
      cases halfWay
  | ok loaded =>
      rw [found] at halfWay
      rcases Bool.and_eq_true_iff.mp halfWay with ⟨told, half⟩
      rcases Bool.and_eq_true_iff.mp told with ⟨warned, token⟩
      rcases load_toFile found with ⟨again, reloaded⟩
      exact ⟨loaded, again, rfl, warned, token, eq_of_beq half, reloaded⟩

end RobotRules.Config
