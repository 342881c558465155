import RobotRules.Proofs.Config.Reloading
import RobotRules.Proofs.Loop.Legibility

/-! What comes in from outside can be written down. Settings and requests are read from JSON, and
an integer that can be read there is short enough. So no parameter is ever illegible in an engine
that begins with settings from a file, and no request makes one so. -/

namespace RobotRules

namespace Json

theorem areWritable_toValues {items : List Json}
    (each : ∀ item ∈ items, item.toValue.isWritable = true) :
    Value.areWritable (toValues items) = true := by
  induction items with
  | nil => rfl
  | cons item rest induction =>
      rw [List.forall_mem_cons] at each
      rw [toValues, Value.areWritable, each.1, induction each.2]
      rfl

theorem areWritableEntries_toEntries {members : List (Points × Json)}
    (each : ∀ member ∈ members, member.2.toValue.isWritable = true) :
    Value.areWritableEntries (toEntries members) = true := by
  induction members with
  | nil => rfl
  | cons member rest induction =>
      rw [List.forall_mem_cons] at each
      rw [toEntries, Value.areWritableEntries, each.1, induction each.2]
      rfl

theorem IsWritable.toValue {json : Json} (writable : json.IsWritable) :
    json.toValue.isWritable = true := by
  induction writable with
  | integer short => exact short
  | list _ each => exact areWritable_toValues each
  | object _ _ each => exact areWritableEntries_toEntries each
  | _ => rfl

end Json

namespace Value

theorem isWritable_of_mem {members : Named Value} (writable : areWritableEntries members = true) :
    ∀ member ∈ members, member.2.isWritable = true := by
  induction members with
  | nil => simp
  | cons member rest induction =>
      simp only [areWritableEntries, Bool.and_eq_true] at writable
      exact List.forall_mem_cons.mpr ⟨writable.1.2, induction writable.2⟩

end Value

/-! Engines. -/

namespace Engine

/-- With settings from a file, parameters are legible whatever happens. -/
theorem legible_of_load {file : Option Text} {environment : Config.Environment}
    {loaded : Config.Loaded} (found : Config.load file environment = .ok loaded) (robot : Robot)
    (replies : Replies) (foreground : Foreground) (text : Text) (steps : List Step)
    (names : List Text) :
    (Engine.run ⟨World.fresh loaded.config robot replies,
      Loop.idle loaded.config.loop foreground text⟩ steps).world.Legible names := by
  rcases Config.load_eq_ok found with ⟨config, writable, _, overruled⟩
  have result : loaded.config = Config.overridden environment config :=
    Except.ok.inj (overruled.symm.trans (Config.overrideAll_eq_ok overruled config))
  have settings : loaded.config.Writable :=
    result ▸ Config.writable_overridden environment writable
  have seed : loaded.config.loop.initialState.IsWritable := settings.loop _ (by simp)
  have opening : IsLegible names ⟨World.fresh loaded.config robot replies,
      Loop.idle loaded.config.loop foreground text⟩ :=
    ⟨fun name _ => Memory.legible_empty name, seed.toValue⟩
  exact (legible_run opening steps).world

end Engine

/-! Requests. -/

namespace Control

/-- The members of a body hold nothing that is too long. -/
theorem isWritable_of_members {body : Option Text} {entries : Named Value}
    (read : members body = .ok entries) : ∀ member ∈ entries, member.2.isWritable = true := by
  unfold members at read
  split at read
  · cases read
  · cases read
  · split at read
    · cases read
    · split at read
      · cases read
      · cases read
      · rename_i json isJson
        have writable := (Json.isWritable_of_read isJson).toValue
        split at read
        · rename_i found isObject
          rw [isObject, Except.ok.inj read] at writable
          exact Value.isWritable_of_mem writable
        · cases read

theorem isWritable_of_scalarMember {name : Text} {entries : Named Value} {value : Value}
    (writable : ∀ member ∈ entries, member.2.isWritable = true)
    (read : scalarMember name entries = .ok value) : value.isWritable = true := by
  have found : ((entries.find? (.text name)).getD .absent).isWritable = true := by
    cases found : entries.find? (.text name) with
    | none => rfl
    | some thing =>
        rcases Named.exists_mem_of_find? found with ⟨other, member⟩
        exact writable _ member
  unfold scalarMember at read
  split at read
  · cases read
  · cases read
  · cases read
  · exact Except.ok.inj read ▸ found

namespace Server

variable {names : List Text} {server : Server}

theorem legible_need (part : Text) {outcome : Outcome}
    (before : server.engine.world.Legible names)
    (after : outcome.2.engine.world.Legible names) :
    (server.need part outcome).2.engine.world.Legible names := by
  unfold need
  split
  · exact after
  · exact before

theorem legible_reloadRules (wait : Bool) (locate : Service.Locator) (address : Value)
    (reply : Reply) (legible : server.engine.world.Legible names) :
    (server.reloadRules wait locate address reply).2.engine.world.Legible names := by
  unfold reloadRules
  dsimp only
  split
  · exact legible
  · rename_i reached
    rcases Result.bind_eq_ok_iff.mp reached with ⟨_, _, same⟩
    cases same
    exact legible.of_memory_eq (Loop.memory_recordAll ..)

/-- No request makes a parameter illegible. -/
theorem legible_follow (legible : server.engine.world.Legible names) {request : Request}
    {setting : Setting} {route : Route} {outcome : Outcome}
    (answered : server.follow request setting route = .ok outcome) :
    outcome.2.engine.world.Legible names := by
  cases route with
  | health | description =>
      cases answered
      exact legible
  | state | rules | capabilities =>
      rw [← Except.ok.inj answered]
      exact legible_need _ legible legible
  | history name =>
      rcases Result.bind_eq_ok_iff.mp answered with ⟨_, _, answered⟩
      rw [← Except.ok.inj answered]
      exact legible_need _ legible legible
  | setState name =>
      rcases Result.bind_eq_ok_iff.mp answered with ⟨entries, membersRead, answered⟩
      rcases Result.bind_eq_ok_iff.mp answered with ⟨value, valueRead, answered⟩
      rw [← Except.ok.inj answered]
      refine legible_need _ legible ?_
      have writable := isWritable_of_scalarMember (isWritable_of_members membersRead) valueRead
      exact Engine.legible_act (World.keeps_legible_write (.text name) writable) legible
  | replaceRules =>
      rcases Result.bind_eq_ok_iff.mp answered with ⟨_, _, answered⟩
      rcases Result.bind_eq_ok_iff.mp answered with ⟨text, _, answered⟩
      rw [← Except.ok.inj answered]
      exact legible_need _ legible (legible.of_memory_eq (Loop.memory_recordAll ..))
  | reloadRules =>
      rcases Result.bind_eq_ok_iff.mp answered with ⟨wait, _, answered⟩
      rw [← Except.ok.inj answered]
      refine legible_need _ legible ?_
      cases server.source with
      | none => exact legible
      | some address => exact legible_reloadRules _ _ address _ legible
  | hear =>
      rcases Result.bind_eq_ok_iff.mp answered with ⟨_, _, answered⟩
      rcases Result.bind_eq_ok_iff.mp answered with ⟨heard, _, answered⟩
      rw [← Except.ok.inj answered]
      exact legible_need _ legible (Engine.legible_act (World.keeps_legible_hear _ _) legible)
  | wakeUp =>
      rcases Result.bind_eq_ok_iff.mp answered with ⟨_, _, answered⟩
      rcases Result.bind_eq_ok_iff.mp answered with ⟨_, _, answered⟩
      rw [← Except.ok.inj answered]
      exact legible_need _ legible (Engine.legible_act World.keeps_legible_wakeUp legible)

end Server

end Control

end RobotRules
