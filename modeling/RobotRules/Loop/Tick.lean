import RobotRules.Evaluation
import RobotRules.Loop.Basic

/-! One tick of the interaction loop. Every rule is looked at in order, in the
state that the rules before it left. A rule that speaks runs its actions at once
and holds up the loop; the actions of any other rule are handed over as one
batch. A failure ends the pass over the rules, but not the loop; a failure in a
batch ends only the batch. -/

namespace RobotRules

/-- What comes of a pass over rules: the batches that were handed over, in
order, the failure that ended it early, if one did, and the state reached. -/
structure Pass (σ : Type) where
  batches : List Batch
  failure : Option Failure
  state : σ

namespace Loop

variable {σ : Type} (host : Host σ)

/-- The channel on which the loop reports. -/
def channel : Text := "rulebot.engine.interaction_loop"

/-- Runs a batch. A failure ends it and is reported. -/
def runBatch (batch : Batch) (state : σ) : σ :=
  match Expr.runAll host batch state with
  | .ok _ state => state
  | .error failure state =>
    host.record ⟨.warning, channel, "Foreground action failed: " ++ failure.report⟩ state

/-- Runs batches one after the other. -/
def runBatches (batches : List Batch) (state : σ) : σ :=
  batches.foldl (fun state batch => runBatch host batch state) state

/-- Hands over a batch: the batch if it has to wait. A worker that has retired
accepts none. -/
def submit (loop : Loop) (batch : Batch) : Act σ (Option Batch) := do
  match loop.foreground with
  | .inline =>
    modify (runBatch host batch)
    return none
  | .deferred => return some batch
  | .own => if loop.isClosed then throw .executorClosed else return some batch

/-- Looks at one rule: the batch that it hands over, if there is one. -/
def visit (loop : Loop) (rule : Rule) : Act σ (Option Batch) := do
  if !(← rule.condition.holds host) then return none
  if rule.actions.any (speaks loop.settings) then
    Expr.runAll host rule.actions
    return none
  else submit host loop rule.actions

/-- Looks at rules in order up to the first failure. -/
def pass (loop : Loop) : List Rule → σ → Pass σ
  | [], state => ⟨[], none, state⟩
  | rule :: rest, state =>
    match visit host loop rule state with
    | .error failure state => ⟨[], some failure, state⟩
    | .ok batch state =>
      let others := pass loop rest state
      { others with batches := batch.toList ++ others.batches }

/-- The state with the report of a failure that ended a pass. -/
def reportAbort (failure : Option Failure) (state : σ) : σ :=
  match failure with
  | none => state
  | some failure =>
    host.record ⟨.error, channel,
      "Rule evaluation aborted for this tick: " ++ failure.report⟩ state

/-- Adds entries to the log. -/
def recordAll (log : Log) (state : σ) : σ :=
  log.foldl (fun state entry => host.record entry state) state

/-- Runs the batches that wait. -/
def drain (loop : Loop) (state : σ) : Loop × σ :=
  ({ loop with queue := [] }, runBatches host loop.queue state)

/-- One tick. The batches that are handed over in it wait to be run. -/
def tick (loop : Loop) (state : σ) : Loop × σ :=
  let (loop, log) := loop.reload
  let result := pass host loop loop.rules (recordAll host log state)
  ({ loop with ticks := loop.ticks + 1, queue := loop.queue ++ result.batches },
    reportAbort host result.failure result.state)

end Loop

end RobotRules
