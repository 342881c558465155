import RobotRules.Loop.Tick
import RobotRules.Proofs.Evaluation.ReadOnly

/-! The course of a pass over rules that nothing cuts short: which rules fire, and what
state the pass reaches; and what is reported of a pass that is cut short. -/

namespace RobotRules.Loop

/-- A reload changes the rules and settles that they are those of the text, and that is all. -/
theorem reload_fst (loop : Loop) :
    loop.reload.1 =
      { loop with
        isPending := false
        rules := if loop.isPending then (Rule.parseAll loop.text).1 else loop.rules } := by
  unfold reload
  cases pending : loop.isPending with
  | true => rfl
  | false =>
      rcases loop with ⟨⟩
      cases pending
      rfl

/-- Reports leave memory as it is. -/
theorem memory_recordAll (log : Log) (world : World) :
    (recordAll World.host log world).memory = world.memory := by
  induction log generalizing world with
  | nil => rfl
  | cons entry rest induction => exact induction _

section Visit

variable {σ : Type} {host : Host σ} {loop : Loop} {rule : Rule} {before between : σ}

theorem visit_of_error {failure : Failure}
    (failed : rule.condition.holds host before = .error failure between) :
    visit host loop rule before = .error failure between :=
  Act.bind_of_error _ failed

theorem visit_of_not_holds (unmet : rule.condition.holds host before = .ok false between) :
    visit host loop rule before = .ok none between :=
  Act.bind_of_ok _ unmet

/-- A pass goes on after a rule that does not fail. -/
theorem pass_of_visit {batch : Option Batch} (visited : visit host loop rule before =
    .ok batch between) (rest : List Rule) :
    pass host loop (rule :: rest) before =
      { pass host loop rest between with
        batches := batch.toList ++ (pass host loop rest between).batches } := by
  rw [pass, visited]

variable (met : rule.condition.holds host before = .ok true between)

include met

theorem visit_of_speaks (speaks : rule.actions.any (speaks loop.settings) = true) :
    visit host loop rule before =
      (Expr.runAll host rule.actions >>= fun _ => pure none) between := by
  unfold visit
  rw [Act.bind_of_ok _ met]
  simp only [speaks]
  rfl

/-- The actions of a rule that does not speak are handed over. -/
theorem visit_eq_submit (silent : rule.actions.any (speaks loop.settings) = false) :
    visit host loop rule before = submit host loop rule.actions between := by
  unfold visit
  rw [Act.bind_of_ok _ met]
  simp only [silent]
  rfl

theorem visit_of_silent (inline : loop.foreground = .inline)
    (silent : rule.actions.any (speaks loop.settings) = false) :
    visit host loop rule before = .ok none (runBatch host rule.actions between) := by
  rw [visit_eq_submit met silent, submit, inline]
  rfl

theorem visit_of_deferred (deferred : loop.foreground = .deferred)
    (silent : rule.actions.any (speaks loop.settings) = false) :
    visit host loop rule before = .ok (some rule.actions) between := by
  rw [visit_eq_submit met silent, submit, deferred]
  rfl

end Visit

variable {σ : Type} (host : Host σ)

/-- The rules whose condition held when their turn came, up to the first failure. -/
def fired (loop : Loop) : List Rule → σ → List Rule
  | [], _ => []
  | rule :: rest, state =>
    match rule.condition.holds host state with
    | .error _ _ => []
    | .ok held _ =>
      (if held then [rule] else []) ++
        match visit host loop rule state with
        | .error _ _ => []
        | .ok _ next => fired loop rest next

/-- A pass over rules comes to its end. No batch is handed over by it. -/
structure Passes (loop : Loop) (rules : List Rule) (before : σ) (fired : List Rule)
    (after : σ) : Prop where
  pass : pass host loop rules before = ⟨[], none, after⟩
  fired : loop.fired host rules before = fired

namespace Passes

variable {host} {loop : Loop} {rule : Rule} {rules others : List Rule} {before next after : σ}

theorem nil : Passes host loop [] before [] before := ⟨rfl, rfl⟩

/-- A rule whose condition does not hold is passed over. -/
theorem skip (unmet : rule.condition.holds host before = .ok false before)
    (rest : Passes host loop rules before others after) :
    Passes host loop (rule :: rules) before others after := by
  have visited : visit host loop rule before = .ok none before := visit_of_not_holds unmet
  constructor
  · rw [Loop.pass, visited]
    exact congrArg (fun pass => { pass with batches := [] ++ pass.batches }) rest.pass
  · rw [Loop.fired, unmet, visited]
    exact rest.fired

/-- A rule whose condition holds fires. Here it hands nothing over. -/
theorem fireVisited (met : rule.condition.holds host before = .ok true before)
    (visited : visit host loop rule before = .ok none next)
    (rest : Passes host loop rules next others after) :
    Passes host loop (rule :: rules) before (rule :: others) after := by
  constructor
  · rw [Loop.pass, visited]
    exact congrArg (fun pass => { pass with batches := [] ++ pass.batches }) rest.pass
  · rw [Loop.fired, met, visited]
    exact congrArg _ rest.fired

/-- A rule that speaks runs its actions at once. -/
theorem fire (met : rule.condition.holds host before = .ok true before)
    (speaks : rule.actions.any (speaks loop.settings) = true)
    (run : Expr.runAll host rule.actions before = .ok () next)
    (rest : Passes host loop rules next others after) :
    Passes host loop (rule :: rules) before (rule :: others) after :=
  fireVisited met ((visit_of_speaks met speaks).trans (Act.bind_of_ok _ run)) rest

/-- Rules in front whose conditions do not hold are passed over. -/
theorem skipFront {front : List Rule}
    (unmet : ∀ rule ∈ front, rule.condition.holds host before = .ok false before)
    (rest : Passes host loop rules before others after) :
    Passes host loop (front ++ rules) before others after := by
  induction front with
  | nil => exact rest
  | cons rule front induction =>
      exact skip (unmet rule (by simp)) (induction fun other member =>
        unmet other (List.mem_cons_of_mem _ member))

/-- If none of the conditions holds, nothing changes. -/
theorem skipAll (unmet : ∀ rule ∈ rules, rule.condition.holds host before = .ok false before) :
    Passes host loop rules before [] before := by
  rw [← List.append_nil rules]
  exact skipFront unmet nil

end Passes

/-- A tick with nothing to parse, whose pass comes to its end. -/
theorem tick_of_passes {host} {loop : Loop} {before after : σ} {fired : List Rule}
    (parsed : loop.isPending = false)
    (passes : Passes host loop loop.rules before fired after) :
    loop.tick host before = ({ loop with ticks := loop.ticks + 1 }, after) := by
  have reloaded : loop.reload = (loop, []) := by
    rw [reload, if_neg (by simp [parsed])]
  simp [tick, reloaded, recordAll, passes.pass, reportAbort]

/-! The report of a pass, in the world. -/

/-- What is reported of a pass. -/
def abortLog : Option Failure → Log
  | none => []
  | some failure =>
    [⟨.error, channel, "Rule evaluation aborted for this tick: " ++ failure.report⟩]

theorem reportAbort_eq (failure : Option Failure) (world : World) :
    reportAbort World.host failure world =
      world.withLog (world.log ++ abortLog failure) := by
  cases failure with
  | none => exact (congrArg (World.withLog · world) (List.append_nil _)).symm
  | some failure => rfl

end RobotRules.Loop
