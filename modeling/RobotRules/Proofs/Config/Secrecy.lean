import RobotRules.Proofs.Config.Reloading

/-! The token of the environment stays out of the settings file. Two environments that differ in
nothing but the token that they give lead to settings that differ in nothing but the token; and a
token that came from the environment is not written, nor is one that took its place. -/

namespace RobotRules.Config

/-! Two environments with a token. -/

/-- The environment gives a token: one of the two variables is set and not empty. -/
def GivesToken (environment : Environment) : Prop :=
  (lookUp? "HF_API_TOKEN" environment).isSome = true ∨
    (lookUp? "RULEBOT_ASSISTANT_TOKEN" environment).isSome = true

/-- All variables but the two for the token are the same; an empty one is one that is not set. -/
def AgreeButToken (environment other : Environment) : Prop :=
  ∀ name : Text, name ≠ "HF_API_TOKEN" → name ≠ "RULEBOT_ASSISTANT_TOKEN" →
    lookUp? name environment = lookUp? name other

variable {environment other : Environment} {name : Text} {config : Config}

theorem isSome_given?_asText :
    (given? environment name asText).isSome = (lookUp? name environment).isSome := by
  unfold given?
  cases lookUp? name environment <;> rfl

theorem GivesToken.exists_given (gives : GivesToken environment) :
    ∃ token, givenToken? environment = some token := by
  rw [← Option.isSome_iff_exists, givenToken?, Option.isSome_or, Bool.or_eq_true,
    isSome_given?_asText, isSome_given?_asText]
  exact gives.symm

theorem AgreeButToken.override_eq (agree : AgreeButToken environment other)
    (notFirst : name ≠ "HF_API_TOKEN") (notSecond : name ≠ "RULEBOT_ASSISTANT_TOKEN")
    (read : Spelling → Except Failure Json) (change : Config → Json → Config) :
    override other name read change = override environment name read change := by
  funext config
  unfold override
  rw [agree name notFirst notSecond]

theorem override_asText (environment : Environment) (name : Text)
    (change : Config → Json → Config) (config : Config) :
    override environment name asText change config =
      .ok ((given? environment name asText).elim config (change config)) := by
  unfold override given?
  cases lookUp? name environment <;> rfl

/-- An environment that differs in nothing but its token gives settings that differ in nothing
but the token, or fails for the same reason. -/
theorem overrideAll_of_agree (agree : AgreeButToken environment other)
    (gives : GivesToken environment) {token : Json} (given : givenToken? other = some token)
    (config : Config) :
    overrideAll other config = (withToken · token) <$> overrideAll environment config := by
  rcases gives.exists_given with ⟨first, givenFirst⟩
  unfold givenToken? at given givenFirst
  unfold overrideAll
  dsimp only
  simp (disch := decide) only [agree.override_eq, map_bind]
  -- only the variables in front of the tokens can fail, and they are the same
  iterate 7 (refine bind_congr fun config => ?_)
  simp only [override_asText, bind, Except.bind, elim_takeToken, given, givenFirst]
  rw [elim_takeAddress, elim_takeModel, elim_takeAddress, elim_takeModel]
  rfl

theorem fromEnvironment_token_of_gives (gives : GivesToken environment) {overruled : Config}
    (found : overrideAll environment config = .ok overruled) :
    overruled.fromEnvironment.token = true := by
  rcases gives.exists_given with ⟨token, given⟩
  have effect : overruled = overridden environment config :=
    Except.ok.inj (found.symm.trans (overrideAll_eq_ok found config))
  rw [effect, overridden, given]
  simp

/-! Loading and saving. -/

theorem load_of_agree (agree : AgreeButToken environment other)
    (gives : GivesToken environment) {token : Json} (given : givenToken? other = some token)
    (file : Option Text) :
    load file other = (fun loaded => { loaded with config := loaded.config.withToken token }) <$>
      load file environment := by
  unfold load
  cases file with
  | none => simp only [overrideAll_of_agree agree gives given, map_bind, bind_map_left, map_pure]
  | some text =>
      simp only [overrideAll_of_agree agree gives given, map_bind, bind_map_left, map_pure]

theorem fromEnvironment_token_of_load (gives : GivesToken environment) {file : Option Text}
    {loaded : Loaded} (found : load file environment = .ok loaded) :
    loaded.config.fromEnvironment.token = true := by
  rcases load_eq_ok found with ⟨config, _, _, overruled⟩
  exact fromEnvironment_token_of_gives gives overruled

/-- A token is not written if one came from the environment, whatever took its place. -/
theorem toFile_withToken (taken : config.fromEnvironment.token = true) (token : Json) :
    (config.withToken token).toFile = config.toFile := by
  unfold toFile withToken
  simp only [taken, if_true]
  rfl

/-- The text of the settings file that is written after the settings were loaded and then,
perhaps, another token was put in the place of theirs. -/
def resave (file : Option Text) (environment : Environment) (token? : Option Json) :
    Except Failure Text := do
  let loaded ← load file environment
  return (token?.elim loaded.config loaded.config.withToken).toFile

theorem resave_of_gives (gives : GivesToken environment) (file : Option Text)
    (token? : Option Json) :
    resave file environment token? = (·.config.toFile) <$> load file environment := by
  unfold resave
  cases found : load file environment with
  | error failure => rfl
  | ok loaded =>
      have taken := fromEnvironment_token_of_load gives found
      cases token? with
      | none => rfl
      | some token => exact congrArg Except.ok (toFile_withToken taken token)

/-- Whatever the file and the rest of the environment say, and whatever takes the place of the
token before the settings are saved: the file that is written says nothing of a token that came
from the environment. With another token there, the same text is written, or loading fails for
the same reason. -/
theorem resave_eq_of_agree (agree : AgreeButToken environment other)
    (gives : GivesToken environment) (givesOther : GivesToken other) (file : Option Text)
    (token? otherToken? : Option Json) :
    resave file environment token? = resave file other otherToken? := by
  rcases givesOther.exists_given with ⟨token, given⟩
  rw [resave_of_gives gives, resave_of_gives givesOther, load_of_agree agree gives given]
  cases found : load file environment with
  | error failure => rfl
  | ok loaded =>
      have taken := fromEnvironment_token_of_load gives found
      exact congrArg Except.ok (toFile_withToken taken token).symm

/-- The file has a token of its own and is not read to its end. The environments give their tokens
in different variables, and another one takes the place of the second token. -/
theorem resave_eq_of_agree_two_tokens :
    let file : Text := "\x7b\"assistant\": \x7b\"api_token\": \"mine\"\x7d, \"server\": []\x7d"
    let environment : Environment := [("HF_API_TOKEN", "secret"), ("RULEBOT_PORT", "9100")]
    let other : Environment :=
      [("RULEBOT_PORT", "9100"), ("HF_API_TOKEN", []), ("RULEBOT_ASSISTANT_TOKEN", "hidden")]
    AgreeButToken environment other ∧ GivesToken environment ∧ GivesToken other ∧
      ∃ text, resave (some file) environment none = .ok text ∧
        resave (some file) other (some "shown") = .ok text := by
  intro file environment other
  have agree : AgreeButToken environment other := by
    intro name notFirst notSecond
    have first : ("HF_API_TOKEN".toList == name) = false := by simpa using notFirst.symm
    have second : ("RULEBOT_ASSISTANT_TOKEN".toList == name) = false := by
      simpa using notSecond.symm
    by_cases port : ("RULEBOT_PORT".toList == name) = true <;>
      simp only [lookUp?, environment, other, List.find?_cons, first, second, port, List.find?_nil]
  have gives : GivesToken environment := .inl (by decide)
  have givesOther : GivesToken other := .inr (by decide)
  have written : (resave (some file) environment none).toOption.isSome = true := by decide +kernel
  rcases Option.isSome_iff_exists.mp written with ⟨text, isText⟩
  have saved := Result.toOption_eq_some_iff.mp isText
  have same := resave_eq_of_agree agree gives givesOther (some file) none (some "shown")
  exact ⟨agree, gives, givesOther, text, saved, same ▸ saved⟩

end RobotRules.Config
