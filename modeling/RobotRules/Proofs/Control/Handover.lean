import RobotRules.Control.Server
import RobotRules.Proofs.Result

/-! The texts that reach the loop. Of all that a server is asked, only a new text and a
reload from a remote address make a difference to the loop, and that difference is that
the text is held. -/

namespace RobotRules

/-- The text that a service of rules gives with its reply, unless the reload fails. -/
def Rule.fetched? (locate : Service.Locator) (address : Value) (reply : Reply) : Option Text :=
  (Rule.fetch locate address reply).toOption

/-- No other response than a success gives a text. -/
theorem Rule.eq_response_of_fetch {locate : Service.Locator} {address : Value} {reply : Reply}
    {text : Text} (found : Rule.fetch locate address reply = .ok text) :
    reply = .response 200 text := by
  unfold Rule.fetch at found
  dsimp only at found
  split at found
  · cases found
  rcases Result.bind_eq_ok_iff.mp found with ⟨place, _, found⟩
  rcases Result.bind_eq_ok_iff.mp found with ⟨_, _, found⟩
  cases reply with
  | unreachable reason => cases found
  | response status body =>
      rcases Result.bind_eq_ok_iff.mp found with ⟨_, _, found⟩
      split_ifs at found with other
      · cases found
      · cases found
        rw [not_not.mp other]

/-- The loop after a text was handed over, if one was. -/
def Loop.received (loop : Loop) : Option Text → Loop
  | some text => loop.replace text
  | none => loop

namespace Engine

theorem loop_act {α : Type} (action : World.Action α) (engine : Engine) :
    (engine.act action).2.loop = engine.loop := by
  unfold act
  split <;> rfl

theorem loop_seed (engine : Engine) : engine.seed.loop = engine.loop := by
  unfold seed
  dsimp only
  split
  · exact loop_act _ engine
  · rfl

variable {locate : Service.Locator} {address : Value} {reply : Reply} {engine : Engine}

theorem loop_replaceFrom {outcome : Bool × Engine}
    (reached : engine.replaceFrom locate address reply = .ok outcome) :
    outcome.2.loop = engine.loop.received (Rule.fetched? locate address reply) := by
  unfold replaceFrom Loop.replaceFrom at reached
  unfold Rule.fetched?
  split at reached
  · rename_i text fetched
    rw [fetched, ← Except.ok.inj reached]
    rfl
  · rename_i error fetched
    rw [fetched, ← Except.ok.inj reached]
    rfl
  · cases reached

theorem fetched?_eq_none_of_replaceFrom {failure : Failure}
    (failed : engine.replaceFrom locate address reply = .error failure) :
    Rule.fetched? locate address reply = none := by
  unfold replaceFrom Loop.replaceFrom at failed
  unfold Rule.fetched?
  split at failed
  · cases failed
  · cases failed
  · rename_i fetched
    rw [fetched]
    rfl

end Engine

namespace Control

/-- The member of a name. -/
def Response.member? (name : Text) : Response → Option Value
  | .content _ (.dict members) => Named.find? (.text name) members
  | _ => none

/-- The number of rules in a text is shown as it is, unless it is too long for that. -/
theorem Response.member?_parsed_rules (count : Int) :
    (ofMembers [("status", .text "pending"), ("parsed_rules", .integer count)]).member?
      "parsed_rules" = if Number.isWritable count then some (.integer count) else none := by
  have opened :
      openPart (.ofMembers [("status", .text "pending"), ("parsed_rules", .integer count)]) =
        .ofMembers [("status", .text "pending"), ("parsed_rules", .integer count)] := rfl
  unfold ofMembers
  rw [opened]
  simp only [Value.ofMembers, List.map, Value.sent?, Value.sentMembers?, Value.memberName?]
  split_ifs <;> rfl

namespace Server

/-- The text that a request hands over. -/
def requested? (request : Request) (setting : Setting) (server : Server) :
    Route → Option Text
  | .replaceRules =>
    if server.isUp then (members request.body >>= textMember "text").toOption else none
  | .reloadRules =>
    match optional boolean? (request.parameter? "wait"), server.source with
    | .ok _, some address =>
      if server.isUp then Rule.fetched? setting.locate address setting.reply else none
    | _, _ => none
  | _ => none

variable (server : Server)

theorem loop_need (part : Text) (outcome : Outcome) :
    (server.need part outcome).2.engine.loop =
      if server.isUp then outcome.2.engine.loop else server.engine.loop := by
  unfold need
  split <;> rfl

theorem loop_setState (name : Text) (value : Value) :
    (server.setState name value).2.engine.loop = server.engine.loop :=
  Engine.loop_act _ server.engine

theorem loop_hear (text : Text) (language : Option Text)
    (detection : Language.Detection) :
    (server.hear text language detection).2.engine.loop = server.engine.loop :=
  Engine.loop_act _ server.engine

theorem loop_wakeUp : server.wakeUp.2.engine.loop = server.engine.loop :=
  Engine.loop_act _ server.engine

theorem loop_replaceRules (text : Text) :
    (server.replaceRules text).2.engine.loop = server.engine.loop.replace text := rfl

theorem loop_reloadRules (wait : Bool) (locate : Service.Locator) (address : Value)
    (reply : Reply) :
    (server.reloadRules wait locate address reply).2.engine.loop =
      server.engine.loop.received (Rule.fetched? locate address reply) := by
  cases reached : server.engine.replaceFrom locate address reply with
  | ok outcome =>
      simp only [reloadRules, reached]
      exact Engine.loop_replaceFrom reached
  | error failure =>
      simp only [reloadRules, reached]
      rw [Engine.fetched?_eq_none_of_replaceFrom reached]
      rfl

variable {server}

theorem loop_follow {request : Request} {setting : Setting} {route : Route}
    {outcome : Outcome} (answered : server.follow request setting route = .ok outcome) :
    outcome.2.engine.loop =
      server.engine.loop.received (server.requested? request setting route) := by
  cases route with
  | health | description =>
      cases answered
      rfl
  | state | rules | capabilities =>
      rw [← Except.ok.inj answered, loop_need, ite_self]
      rfl
  | history name =>
      rcases Result.bind_eq_ok_iff.mp answered with ⟨window, _, answered⟩
      rw [← Except.ok.inj answered, loop_need, ite_self]
      rfl
  | setState name =>
      rcases Result.bind_eq_ok_iff.mp answered with ⟨members, _, answered⟩
      rcases Result.bind_eq_ok_iff.mp answered with ⟨value, _, answered⟩
      rw [← Except.ok.inj answered, loop_need, loop_setState, ite_self]
      rfl
  | replaceRules =>
      rcases Result.bind_eq_ok_iff.mp answered with ⟨found, membersRead, answered⟩
      rcases Result.bind_eq_ok_iff.mp answered with ⟨text, textRead, answered⟩
      rw [← Except.ok.inj answered, loop_need, loop_replaceRules]
      have read : members request.body >>= textMember "text" = .ok text :=
        Result.bind_eq_ok_iff.mpr ⟨_, membersRead, textRead⟩
      simp only [requested?, read]
      cases server.isUp <;> rfl
  | reloadRules =>
      rcases Result.bind_eq_ok_iff.mp answered with ⟨wait, waitRead, answered⟩
      rw [← Except.ok.inj answered, loop_need]
      simp only [requested?, waitRead]
      cases server.source with
      | none =>
          rw [ite_self]
          rfl
      | some address =>
          simp only [loop_reloadRules]
          cases server.isUp <;> rfl
  | hear =>
      rcases Result.bind_eq_ok_iff.mp answered with ⟨members, _, answered⟩
      rcases Result.bind_eq_ok_iff.mp answered with ⟨heard, _, answered⟩
      rw [← Except.ok.inj answered, loop_need, loop_hear, ite_self]
      rfl
  | wakeUp =>
      rcases Result.bind_eq_ok_iff.mp answered with ⟨members, _, answered⟩
      rcases Result.bind_eq_ok_iff.mp answered with ⟨_, _, answered⟩
      rw [← Except.ok.inj answered, loop_need, loop_wakeUp, ite_self]
      rfl

/-- A request that is refused hands nothing over. -/
theorem requested?_eq_none_of_follow {request : Request} {setting : Setting}
    {route : Route} {refusal : Refusal}
    (refused : server.follow request setting route = .error refusal) :
    server.requested? request setting route = none := by
  cases route with
  | replaceRules =>
      have unread : members request.body >>= textMember "text" = .error refusal := by
        apply Result.bind_eq_error_iff.mpr
        rcases Result.bind_eq_error_iff.mp refused with refused | ⟨found, membersRead, refused⟩
        · exact .inl refused
        · rcases Result.bind_eq_error_iff.mp refused with refused | ⟨text, _, answered⟩
          · exact .inr ⟨found, membersRead, refused⟩
          · cases answered
      simp only [requested?, unread]
      exact ite_self none
  | reloadRules =>
      rcases Result.bind_eq_error_iff.mp refused with unread | ⟨wait, _, answered⟩
      · simp only [requested?, unread]
      · cases answered
  | _ => rfl

/-- A number of rules is only told of a text that is handed over. -/
theorem exists_requested?_of_parsed_rules {request : Request} {setting : Setting}
    {outcome : Outcome} {count : Int}
    (answered : server.follow request setting .replaceRules = .ok outcome)
    (told : outcome.1.member? "parsed_rules" = some (.integer count)) :
    ∃ text, server.requested? request setting .replaceRules = some text ∧
      count = (Rule.parseAll text).1.length := by
  rcases Result.bind_eq_ok_iff.mp answered with ⟨found, membersRead, answered⟩
  rcases Result.bind_eq_ok_iff.mp answered with ⟨text, textRead, answered⟩
  have read : members request.body >>= textMember "text" = .ok text :=
    Result.bind_eq_ok_iff.mpr ⟨_, membersRead, textRead⟩
  rw [← Except.ok.inj answered] at told
  unfold need at told
  split at told
  · rename_i isUp
    have requested : server.requested? request setting .replaceRules = some text := by
      rw [requested?, if_pos isUp, read]
      rfl
    refine ⟨text, requested, ?_⟩
    simp only [replaceRules, Response.member?_parsed_rules] at told
    split_ifs at told
    exact (Value.integer.inj (Option.some.inj told)).symm
  · cases told

end Server

end Control

end RobotRules
