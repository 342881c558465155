import RobotRules.Proofs.Loop.Course
import RobotRules.Proofs.Loop.Visits

/-! How far a failure reaches in a tick. A tick that runs actions at once visits its rules one
after the other, each in the state that the visits before it left, and counts itself whatever
fails in it. -/

namespace RobotRules.Loop

/-! A tick has a course. -/

section Existence

variable {σ : Type} (host : Host σ)

theorem exists_acted (actions : List Expr) (before : σ) : ∃ deeds outcome after,
    Acted actions deeds outcome ∧ host.Does deeds before after ∧
      Expr.runAll host actions before = Act.give outcome after := by
  induction actions generalizing before with
  | nil => exact ⟨[], .ok (), before, .nil, .nil before, rfl⟩
  | cons action rest induction =>
      rcases Act.exists_eq_give (action.evaluate host before) with ⟨outcome, between, evaluated⟩
      cases outcome with
      | error failure =>
          exact ⟨_, .error failure, between, .fail, .act evaluated (.nil between),
            Act.bind_of_error _ evaluated⟩
      | ok value =>
          rcases induction between with ⟨deeds, outcome, after, acted, does, ran⟩
          exact ⟨_, outcome, after, .goOn acted, .act evaluated does,
            (Act.bind_of_ok _ evaluated).trans ran⟩

variable {loop : Loop}

/-- What a visit comes to: the pass goes on, or it ends with a failure that is reported. -/
theorem exists_visit (inline : loop.foreground = .inline) (rule : Rule) (before : σ) :
    ∃ visit, IsVisit loop.settings rule visit ∧
      ((¬visit.IsAborted ∧ ∃ after, loop.visit host rule before = .ok none after ∧
          host.Does visit.deeds before after) ∨
        visit.IsAborted ∧ ∃ failure after, loop.visit host rule before = .error failure after ∧
          host.Does visit.deeds before (reportAbort host (some failure) after)) := by
  rcases Act.exists_eq_give (rule.condition.evaluate host before) with ⟨outcome, between, judged⟩
  cases outcome with
  | error failure =>
      have doubtful : rule.condition.holds host before = .error failure between :=
        Act.bind_of_error _ judged
      exact ⟨_, .doubtful, .inr ⟨⟨failure, rfl⟩, failure, between, visit_of_error doubtful,
        .judge judged (.report (.nil _))⟩⟩
  | ok value =>
      have holds := Expr.holds_of_evaluate judged
      cases truth : value.asBool with
      | false =>
          rw [truth] at holds
          exact ⟨_, .unmet truth, .inl ⟨nofun, between, visit_of_not_holds holds,
            .judge judged (.nil _)⟩⟩
      | true =>
          rw [truth] at holds
          rcases exists_acted host rule.actions between with
            ⟨acts, outcome, after, acted, does, ran⟩
          have isVisit : IsVisit loop.settings rule
              ⟨rule, .ok value, acts, .ofActions _ outcome⟩ := .met truth acted
          refine ⟨_, isVisit, ?_⟩
          cases speaks : rule.actions.any (speaks loop.settings) with
          | true =>
              have visited := visit_of_speaks holds speaks
              cases outcome with
              | ok _ =>
                  exact .inl ⟨nofun, after, visited.trans (Act.bind_of_ok _ ran),
                    .judge judged (does.append (.nil after))⟩
              | error failure =>
                  exact .inr ⟨⟨failure, rfl⟩, failure, after,
                    visited.trans (Act.bind_of_error _ ran),
                    .judge judged (does.append (.report (.nil _)))⟩
          | false =>
              have visited := visit_of_silent holds inline speaks
              unfold runBatch at visited
              rw [ran] at visited
              cases outcome with
              | ok _ =>
                  exact .inl ⟨nofun, after, visited, .judge judged (does.append (.nil after))⟩
              | error failure =>
                  exact .inl ⟨nofun, _, visited,
                    .judge judged (does.append (.report (.nil _)))⟩

theorem exists_course (inline : loop.foreground = .inline) (rules : List Rule) (before : σ) :
    (pass host loop rules before).batches = [] ∧
      ∃ visits, IsCourse host loop.settings rules before
        (reportAbort host (pass host loop rules before).failure
          (pass host loop rules before).state) visits := by
  induction rules generalizing before with
  | nil => exact ⟨rfl, [], .nil, .nil before⟩
  | cons rule rest induction =>
      rcases exists_visit host inline rule before with
        ⟨visit, isVisit,
          ⟨goesOn, between, visited, does⟩ | ⟨aborted, failure, after, visited, does⟩⟩
      · rcases induction between with ⟨nothing, visits, others, doesOthers⟩
        rw [pass, visited]
        exact ⟨nothing, visit :: visits, .goOn isVisit goesOn others, does.append doesOthers⟩
      · rw [pass, visited]
        refine ⟨rfl, [visit], .cut isVisit aborted, ?_⟩
        rwa [List.flatMap_singleton]

end Existence

variable {σ : Type} (host : Host σ) {loop : Loop}

theorem tick_eq (loop : Loop) (state : σ) :
    let result := pass host loop.reload.1 loop.reload.1.rules (recordAll host loop.reload.2 state)
    loop.tick host state =
      ({ loop.reload.1 with
          ticks := loop.ticks + 1
          queue := loop.reload.1.queue ++ result.batches },
        reportAbort host result.failure result.state) := by
  have counted : loop.reload.1.ticks = loop.ticks := by rw [reload_fst]
  unfold tick
  dsimp only
  rw [counted]

/-- A tick that runs actions at once counts itself, whatever fails in it, and visits the rules
in order: all of them, or those up to the first whose visit ends the tick. -/
theorem tick_course (inline : loop.foreground = .inline) (state : σ) :
    (loop.tick host state).1 = { loop.reload.1 with ticks := loop.ticks + 1 } ∧
      ∃ visits,
        let before := recordAll host loop.reload.2 state
        let after := (loop.tick host state).2
        let rules := loop.reload.1.rules
        let deeds := visits.flatMap Visit.deeds
        let reports := deeds.filterMap Deed.reported?
        IsCourse host loop.settings rules before after visits ∧
          (∀ others, IsCourse host loop.settings rules before after others → others = visits) ∧
          deeds.filterMap Deed.judged? = visits.map Visit.rule ∧
          reports = (visits.flatMap fun visit => visit.ending.log) ∧
          ((visits.map Visit.rule = rules ∧ (∀ visit ∈ visits, ¬visit.IsAborted) ∧
              reports.countP isAbort = 0) ∨
            ∃ done last rest, visits = done ++ [last] ∧
              rules = done.map Visit.rule ++ last.rule :: rest ∧
              (∀ visit ∈ done, ¬visit.IsAborted) ∧ last.IsAborted ∧
              reports.countP isAbort = 1) := by
  have stays : loop.reload.1.foreground = .inline := by rw [reload_fst, inline]
  have same : loop.reload.1.settings = loop.settings := by rw [reload_fst]
  rcases exists_course host stays loop.reload.1.rules (recordAll host loop.reload.2 state) with
    ⟨nothing, visits, course⟩
  rw [same] at course
  rw [tick_eq host loop, nothing, List.append_nil]
  refine ⟨rfl, visits, course, fun others other => ?_, course.areVisits.judged,
    course.areVisits.reported, course.areVisits.aborts⟩
  exact other.areVisits.unique course.areVisits other.does course.does

/-- A host that keeps a log, and whose operations all fail. -/
def failing : Host Log := ⟨fun _ _ _ => .ok fun _ => throw .probe, fun entry log => log ++ [entry]⟩

/-- A rule whose condition always holds. -/
def always (receiver method : Text) : Rule :=
  ⟨.equals (.literal []) (.literal []), [.call receiver method []]⟩

/-- A rule that fails without speaking does not keep the next one from being visited; a rule
that fails while it speaks does. -/
theorem tick_course_failing :
    let rules := [always "Move" "stop", always "TTS" "speak", always "Move" "stop"]
    let loop := { idle {} .inline [] with isPending := false, rules := rules }
    loop.foreground = .inline ∧ (loop.tick failing []).1.ticks = 1 ∧
      ∃ visits, IsCourse failing loop.settings rules []
        [⟨.warning, channel, "Foreground action failed: probe failure"⟩,
          ⟨.error, channel, "Rule evaluation aborted for this tick: probe failure"⟩] visits := by
  intro rules loop
  have inline : loop.foreground = .inline := rfl
  rcases tick_course failing inline [] with ⟨counted, visits, course, _⟩
  exact ⟨inline, congrArg ticks counted, visits, course⟩

end RobotRules.Loop
