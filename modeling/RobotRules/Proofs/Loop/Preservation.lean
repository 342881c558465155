import RobotRules.Loop.Tick
import RobotRules.Proofs.Evaluation.Preservation

/-! What ticks and batches preserve, and the calls that they make. A loop goes the same way
in the traced host, and what the operations and the log preserve is preserved by a whole
tick, also one that is cut short, and by every batch. -/

namespace RobotRules.Loop

open Act (Keeps keeps_pure keeps_throw reached)

variable {σ : Type} {host : Host σ}

theorem kept_recordAll {kept : σ → Prop}
    (record : ∀ (entry : LogEntry) {state : σ}, kept state → kept (host.record entry state))
    (log : Log) {state : σ} (holds : kept state) : kept (recordAll host log state) := by
  induction log generalizing state with
  | nil => exact holds
  | cons entry rest induction => exact induction (record entry holds)

section Preserved

variable {kept : σ → Prop} (preserves : host.Preserves kept) {state : σ}

include preserves

theorem keeps_runBatch (batch : Batch) (holds : kept state) :
    kept (runBatch host batch state) := by
  have ran := Expr.keeps_runAll preserves batch state holds
  unfold runBatch
  split
  · rename_i done
    rwa [done] at ran
  · rename_i failed
    rw [failed] at ran
    exact preserves.record _ ran

theorem keeps_runBatches (batches : List Batch) (holds : kept state) :
    kept (runBatches host batches state) := by
  induction batches generalizing state with
  | nil => exact holds
  | cons batch rest induction => exact induction (keeps_runBatch preserves batch holds)

theorem keeps_submit (loop : Loop) (batch : Batch) : Keeps kept (submit host loop batch) := by
  unfold submit
  split
  · have ran : Keeps kept (modify (runBatch host batch) : Act σ Unit) :=
      fun _ holds => keeps_runBatch preserves batch holds
    exact ran.bind fun _ => keeps_pure _
  · exact keeps_pure _
  · split
    · exact keeps_throw _
    · exact keeps_pure _

theorem keeps_visit (loop : Loop) (rule : Rule) : Keeps kept (visit host loop rule) := by
  refine (Expr.keeps_holds preserves rule.condition).bind fun held => ?_
  cases held with
  | false => exact keeps_pure _
  | true =>
      by_cases speaks : rule.actions.any (Loop.speaks loop.settings) = true
      · simp only [speaks]
        exact (Expr.keeps_runAll preserves rule.actions).bind fun _ => keeps_pure _
      · simp only [speaks]
        exact keeps_submit preserves loop rule.actions

theorem keeps_pass (loop : Loop) (rules : List Rule) (holds : kept state) :
    kept (pass host loop rules state).state := by
  induction rules generalizing state with
  | nil => exact holds
  | cons rule rest induction =>
      have visited := keeps_visit preserves loop rule state holds
      rw [pass]
      split
      · rename_i failed
        rwa [failed] at visited
      · rename_i done
        rw [done] at visited
        exact induction visited

theorem keeps_reportAbort (failure : Option Failure) (holds : kept state) :
    kept (reportAbort host failure state) := by
  cases failure with
  | none => exact holds
  | some failure => exact preserves.record _ holds

/-- A tick breaks no invariant that the operations and the log preserve. -/
theorem keeps_tick (loop : Loop) (holds : kept state) :
    kept (loop.tick host state).2 :=
  keeps_reportAbort preserves _ (keeps_pass preserves _ _ (kept_recordAll preserves.record _ holds))

end Preserved

/-! The same in the traced host. -/

section Traced

open Host (Follows follows_pure)

variable (host)

theorem follows_runAll (exprs : List Expr) :
    Follows (Expr.runAll host.traced exprs) (Expr.runAll host exprs) := by
  induction exprs with
  | nil => exact follows_pure _
  | cons expr rest induction => exact (Expr.follows_evaluate host expr).bind fun _ => induction

theorem runBatch_traced (batch : Batch) (state : σ × List Dispatch) :
    (runBatch host.traced batch state).1 = runBatch host batch state.1 := by
  have ran := follows_runAll host batch state.1 state.2
  unfold runBatch
  cases traced : Expr.runAll host.traced batch state with
  | ok _ reached =>
      rw [traced] at ran
      rw [← ran]
      rfl
  | error failure reached =>
      rw [traced] at ran
      rw [← ran]
      rfl

theorem runBatches_traced (batches : List Batch) (state : σ × List Dispatch) :
    (runBatches host.traced batches state).1 = runBatches host batches state.1 := by
  induction batches generalizing state with
  | nil => rfl
  | cons batch rest induction =>
      refine (induction (runBatch host.traced batch state)).trans ?_
      rw [runBatch_traced]
      rfl

theorem follows_submit (loop : Loop) (batch : Batch) :
    Follows (submit host.traced loop batch) (submit host loop batch) := by
  unfold submit
  cases loop.foreground with
  | inline =>
      intro state calls
      exact congrArg (EStateM.Result.ok none) (runBatch_traced host batch (state, calls))
  | deferred => exact follows_pure _
  | own =>
      cases loop.isClosed with
      | false => exact follows_pure _
      | true => exact fun _ _ => rfl

theorem follows_visit (loop : Loop) (rule : Rule) :
    Follows (visit host.traced loop rule) (visit host loop rule) := by
  have condition : Follows (rule.condition.holds host.traced) (rule.condition.holds host) :=
    (Expr.follows_evaluate host rule.condition).bind fun _ => follows_pure _
  refine condition.bind fun held => ?_
  cases held with
  | false => exact follows_pure _
  | true =>
      by_cases speaks : rule.actions.any (Loop.speaks loop.settings) = true
      · simp only [speaks]
        exact (follows_runAll host rule.actions).bind fun _ => follows_pure _
      · simp only [speaks]
        exact follows_submit host loop rule.actions

theorem pass_traced (loop : Loop) (rules : List Rule) (state : σ × List Dispatch) :
    pass host loop rules state.1 =
      { batches := (pass host.traced loop rules state).batches
        failure := (pass host.traced loop rules state).failure
        state := (pass host.traced loop rules state).state.1 } := by
  induction rules generalizing state with
  | nil => rfl
  | cons rule rest induction =>
      have visited := follows_visit host loop rule state.1 state.2
      rw [pass, pass, ← visited]
      cases visit host.traced loop rule state with
      | error failure reached => rfl
      | ok batch reached =>
          dsimp only [Host.dropCalls]
          rw [induction reached]

theorem recordAll_traced (log : Log) (state : σ × List Dispatch) :
    recordAll host.traced log state = (recordAll host log state.1, state.2) := by
  induction log generalizing state with
  | nil => rfl
  | cons entry rest induction => exact induction _

/-- Tracing makes no difference to what a tick does. -/
theorem tick_traced (loop : Loop) (state : σ × List Dispatch) :
    loop.tick host state.1 =
      ((loop.tick host.traced state).1, (loop.tick host.traced state).2.1) := by
  have passed := pass_traced host loop.reload.1 loop.reload.1.rules
    (recordAll host.traced loop.reload.2 state)
  rw [recordAll_traced] at passed
  unfold tick
  dsimp only
  rw [passed, recordAll_traced]
  cases (pass host.traced loop.reload.1 loop.reload.1.rules
    (recordAll host loop.reload.2 state.1, state.2)).failure <;> rfl

end Traced

end RobotRules.Loop
