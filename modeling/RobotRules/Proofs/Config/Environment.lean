import RobotRules.Config.Environment
import RobotRules.Proofs.Number
import RobotRules.Proofs.Result

/-! Settings from the environment. Which variables are set, and to which values, does not depend
on the settings that they overrule. So an environment that goes through once goes through
always, and it puts the same values in the same places. -/

namespace RobotRules.Config

/-! One variable. -/

/-- The value that a variable is set to, if it is set to one. -/
def given? (environment : Environment) (name : Text) (read : Spelling → Except Failure Json) :
    Option Json :=
  (lookUp? name environment).bind fun spelling => (read spelling).toOption

variable {environment : Environment} {name : Text} {read : Spelling → Except Failure Json}
  {change : Config → Json → Config} {config config' : Config}

theorem override_eq_ok (found : override environment name read change config = .ok config')
    (other : Config) : override environment name read change other =
      .ok ((given? environment name read).elim other (change other)) := by
  unfold override given? at *
  cases set : lookUp? name environment with
  | none => rfl
  | some text =>
      rw [set] at found
      rcases Result.bind_eq_ok_iff.mp found with ⟨value, isValue, _⟩
      simp only [isValue, Except.toOption, Option.bind_some]
      rfl

/-- What is overruled is put in place of what was there. -/
theorem elim_eq {get : Config → Json} (keeps : ∀ config, change config (get config) = config)
    (value? : Option Json) (config : Config) :
    value?.elim config (change config) = change config (value?.getD (get config)) := by
  cases value? with
  | none => exact (keeps config).symm
  | some value => rfl

/-! All variables. -/

section Given

variable (environment : Environment)

/-- The token that is set. Of the two variables the second one counts. -/
def givenToken? : Option Json :=
  (given? environment "RULEBOT_ASSISTANT_TOKEN" asText).or
    (given? environment "HF_API_TOKEN" asText)

def givenAddress? : Option Json := given? environment "RULEBOT_ASSISTANT_URL" asText

def givenModel? : Option Json := given? environment "RULEBOT_ASSISTANT_MODEL" asText

/-- The settings with all values that are set. -/
def overridden (config : Config) : Config :=
  { loop := { config.loop with
      tickInterval := (given? environment "RULEBOT_TICK_INTERVAL_MS" readInteger).getD
        config.loop.tickInterval }
    rules := { config.rules with
      path := (given? environment "RULEBOT_RULES_PATH" asText).getD config.rules.path
      address := (given? environment "RULEBOT_RULES_URL" asText).getD config.rules.address }
    robot := { config.robot with
      speechDelayScale := (given? environment "RULEBOT_SPEECH_DELAY_SCALE" readFloat).getD
        config.robot.speechDelayScale }
    assistant := { config.assistant with
      address := (givenAddress? environment).getD config.assistant.address
      token := (givenToken? environment).getD config.assistant.token
      model := (givenModel? environment).getD config.assistant.model }
    server :=
      { host := (given? environment "RULEBOT_HOST" asText).getD config.server.host
        port := (given? environment "RULEBOT_PORT" readInteger).getD config.server.port
        logLevel := (given? environment "RULEBOT_LOG_LEVEL" asText).getD config.server.logLevel }
    fromEnvironment :=
      { token := config.fromEnvironment.token || (givenToken? environment).isSome
        address := config.fromEnvironment.address || (givenAddress? environment).isSome
        model := config.fromEnvironment.model || (givenModel? environment).isSome } }

end Given

theorem elim_takeToken (first second : Option Json) (config : Config) :
    second.elim (first.elim config (takeToken config))
        (takeToken (first.elim config (takeToken config))) =
      { config with
        assistant := { config.assistant with
          token := (second.or first).getD config.assistant.token }
        fromEnvironment := { config.fromEnvironment with
          token := config.fromEnvironment.token || (second.or first).isSome } } := by
  cases first <;> cases second <;> simp [takeToken, withToken]

theorem elim_takeAddress (value? : Option Json) (config : Config) :
    value?.elim config (takeAddress config) =
      { config with
        assistant := { config.assistant with address := value?.getD config.assistant.address }
        fromEnvironment := { config.fromEnvironment with
          address := config.fromEnvironment.address || value?.isSome } } := by
  cases value? <;> simp [takeAddress]

theorem elim_takeModel (value? : Option Json) (config : Config) :
    value?.elim config (takeModel config) =
      { config with
        assistant := { config.assistant with model := value?.getD config.assistant.model }
        fromEnvironment := { config.fromEnvironment with
          model := config.fromEnvironment.model || value?.isSome } } := by
  cases value? <;> simp [takeModel]

/-- If the variables can be read, they overrule any settings in the same way. -/
theorem overrideAll_eq_ok (found : overrideAll environment config = .ok config')
    (other : Config) : overrideAll environment other = .ok (overridden environment other) := by
  -- that a variable was read once is all that `override_eq_ok` wants of it
  unfold overrideAll at found
  dsimp only at found
  rcases Result.bind_eq_ok_iff.mp found with ⟨_, tick, found⟩
  rcases Result.bind_eq_ok_iff.mp found with ⟨_, scale, found⟩
  rcases Result.bind_eq_ok_iff.mp found with ⟨_, path, found⟩
  rcases Result.bind_eq_ok_iff.mp found with ⟨_, address, found⟩
  rcases Result.bind_eq_ok_iff.mp found with ⟨_, host, found⟩
  rcases Result.bind_eq_ok_iff.mp found with ⟨_, port, found⟩
  rcases Result.bind_eq_ok_iff.mp found with ⟨_, level, found⟩
  rcases Result.bind_eq_ok_iff.mp found with ⟨_, token, found⟩
  rcases Result.bind_eq_ok_iff.mp found with ⟨_, newToken, found⟩
  rcases Result.bind_eq_ok_iff.mp found with ⟨_, service, model⟩
  unfold overrideAll
  simp only [override_eq_ok tick, override_eq_ok scale, override_eq_ok path,
    override_eq_ok address, override_eq_ok host, override_eq_ok port, override_eq_ok level,
    override_eq_ok token, override_eq_ok newToken, override_eq_ok service, override_eq_ok model,
    bind, Except.bind]
  rw [elim_takeModel, elim_takeAddress, elim_takeToken,
    @elim_eq withLogLevel (fun config => config.server.logLevel) fun _ => rfl,
    @elim_eq withPort (fun config => config.server.port) fun _ => rfl,
    @elim_eq withHost (fun config => config.server.host) fun _ => rfl,
    @elim_eq withRulesAddress (fun config => config.rules.address) fun _ => rfl,
    @elim_eq withRulesPath (fun config => config.rules.path) fun _ => rfl,
    @elim_eq withSpeechDelayScale (fun config => config.robot.speechDelayScale) fun _ => rfl,
    @elim_eq withTickInterval (fun config => config.loop.tickInterval) fun _ => rfl]
  rfl

end RobotRules.Config
