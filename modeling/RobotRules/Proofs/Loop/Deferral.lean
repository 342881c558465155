import RobotRules.Engine
import RobotRules.Proofs.Evaluation.Footprint
import RobotRules.Proofs.Loop.Course

/-! Actions that wait until the end of a tick. In a tick with such actions all conditions see
memory as it was at the start, while otherwise each sees what the rules before it wrote. If no
rule writes what a later condition reads, there is no difference in the end. -/

namespace RobotRules

open World (host withLog)

namespace Loop

/-- The loop with actions run elsewhere. -/
def under (foreground : Foreground) (loop : Loop) : Loop := { loop with foreground := foreground }

theorem reload_under (foreground : Foreground) (loop : Loop) :
    (loop.under foreground).reload = (loop.reload.1.under foreground, loop.reload.2) := by
  unfold reload under
  dsimp only
  split_ifs <;> rfl

/-- Rules that deal with nothing but memory and do not feed each other: conditions do not
write, and what an action writes is not read by a later condition. None of the rules speaks. -/
structure Unfed (settings : LoopConfig) (rules : List Rule) : Prop where
  direct : ∀ rule ∈ rules, rule.IsDirect
  silent : ∀ rule ∈ rules, rule.actions.any (speaks settings) = false
  judging : ∀ rule ∈ rules, rule.condition.writtenNames = []
  apart : rules.Pairwise fun earlier later =>
    (earlier.actions.flatMap Expr.writtenNames).Disjoint later.condition.readNames

theorem Unfed.of_cons {settings : LoopConfig} {rule : Rule} {rest : List Rule}
    (unfed : Unfed settings (rule :: rest)) : Unfed settings rest where
  direct other member := unfed.direct other (List.mem_cons_of_mem _ member)
  silent other member := unfed.silent other (List.mem_cons_of_mem _ member)
  judging other member := unfed.judging other (List.mem_cons_of_mem _ member)
  apart := unfed.apart.of_cons

section Visit

variable {rule : Rule} {batch : Batch}

/-- A condition that does not write is judged alike where it reads alike, or fails alike. -/
theorem holds_of_shares (direct : rule.IsDirect) (judging : rule.condition.writtenNames = [])
    (start : World) : ∃ outcome,
    ((∀ name ∈ rule.condition.readNames, start.memory.Legible name) →
      ∃ held, outcome = .ok held) ∧
    ∀ now : World, start.memory.Shares rule.condition.readNames now.memory →
      rule.condition.holds host now = Act.give outcome now := by
  rcases direct.condition.confined.map Value.asBool start with
    ⟨outcome, made, among, succeeds, runs⟩
  have nothing : made = [] := by
    rw [judging] at among
    exact List.eq_nil_iff_forall_not_mem.mpr fun entry member => by simpa using among entry member
  subst nothing
  exact ⟨outcome, succeeds, runs⟩

/-- What a batch writes and reports, in any world in which it reads the same. -/
theorem exists_runBatch_eq (direct : ∀ action ∈ batch, action.IsDirect) (world : World) :
    ∃ made rows, (∀ entry ∈ made, entry.1 ∈ batch.flatMap Expr.writtenNames) ∧
      ∀ other : World, world.memory.Shares (batch.flatMap Expr.readNames) other.memory →
        runBatch host batch other = (other.writeAll made).withLog (other.log ++ rows) := by
  rcases Expr.confined_runAll direct world with ⟨outcome, made, among, _, runs⟩
  have within : ∀ entry ∈ made, entry.1 ∈ batch.flatMap Expr.writtenNames :=
    fun entry member => (among entry member).1
  cases outcome with
  | ok value =>
      refine ⟨made, [], within, fun other shares => ?_⟩
      rw [runBatch, runs other shares, List.append_nil]
      rfl
  | error failure =>
      let entry : LogEntry :=
        ⟨.warning, channel, "Foreground action failed: " ++ failure.report⟩
      refine ⟨made, [entry], within, fun other shares => ?_⟩
      rw [runBatch, runs other shares]
      rfl

/-- Such batches take no notice of the log, and only add to it. -/
theorem exists_runBatches_eq {batches : List Batch}
    (direct : ∀ batch ∈ batches, ∀ action ∈ batch, action.IsDirect) (world : World) :
    ∃ rows, ∀ log, runBatches host batches (world.withLog log) =
      (runBatches host batches world).withLog (log ++ rows) := by
  induction batches generalizing world with
  | nil => exact ⟨[], fun log => by rw [List.append_nil]; rfl⟩
  | cons batch rest induction =>
      rw [List.forall_mem_cons] at direct
      rcases exists_runBatch_eq direct.1 world with ⟨made, rows, _, runs⟩
      rcases induction direct.2 (runBatch host batch world) with ⟨rows', later⟩
      have first (log : Log) : runBatch host batch (world.withLog log) =
          (runBatch host batch world).withLog (log ++ rows) := by
        rw [runs world (.refl _ _), runs (world.withLog log) (.refl _ _)]
        rfl
      refine ⟨rows ++ rows', fun log => ?_⟩
      rw [runBatches, List.foldl_cons, first, ← List.append_assoc]
      exact later (log ++ rows)

end Visit

/-- A pass that keeps the actions back hands over what a pass that does not has run in the end,
and both are cut short by the same failure, if by any. The two passes may start from different
worlds. -/
structure HandsOver (loop : Loop) (rules : List Rule) (start now : World) (batches : List Batch)
    (failure : Option Failure) : Prop where
  direct : ∀ batch ∈ batches, ∀ action ∈ batch, action.IsDirect
  passes : (∀ rule ∈ rules, ∀ name ∈ rule.condition.readNames, start.memory.Legible name) →
    failure = none
  deferred : pass host (loop.under .deferred) rules start = ⟨batches, failure, start⟩
  inline : pass host (loop.under .inline) rules now = ⟨[], failure, runBatches host batches now⟩

namespace HandsOver

variable {loop : Loop} {rule : Rule} {rest : List Rule} {start now : World}
  {batches : List Batch} {failure : Option Failure}

/-- The passes are cut short by a condition. -/
theorem abort {cause : Failure}
    (illegible : ¬∀ name ∈ rule.condition.readNames, start.memory.Legible name)
    (before : rule.condition.holds host start = .error cause start)
    (meanwhile : rule.condition.holds host now = .error cause now) (rest : List Rule) :
    HandsOver loop (rule :: rest) start now [] (some cause) where
  direct := by simp
  passes legible := absurd (List.forall_mem_cons.mp legible).1 illegible
  deferred := by rw [pass, visit_of_error before]
  inline := by
    rw [pass, visit_of_error meanwhile]
    rfl

/-- The passes go on behind a rule whose condition does not hold. -/
theorem skip (before : rule.condition.holds host start = .ok false start)
    (meanwhile : rule.condition.holds host now = .ok false now)
    (handsOver : HandsOver loop rest start now batches failure) :
    HandsOver loop (rule :: rest) start now batches failure where
  direct := handsOver.direct
  passes legible := handsOver.passes (List.forall_mem_cons.mp legible).2
  deferred := by
    rw [pass_of_visit (visit_of_not_holds before), handsOver.deferred]
    rfl
  inline := by
    rw [pass_of_visit (visit_of_not_holds meanwhile), handsOver.inline]
    rfl

/-- The actions of a rule are handed over by one pass, and run at once in the other. -/
theorem fire (direct : ∀ action ∈ rule.actions, action.IsDirect)
    (silent : rule.actions.any (speaks loop.settings) = false)
    (before : rule.condition.holds host start = .ok true start)
    (meanwhile : rule.condition.holds host now = .ok true now)
    (handsOver : HandsOver loop rest start (runBatch host rule.actions now) batches failure) :
    HandsOver loop (rule :: rest) start now (rule.actions :: batches) failure where
  direct := List.forall_mem_cons.mpr ⟨direct, handsOver.direct⟩
  passes legible := handsOver.passes (List.forall_mem_cons.mp legible).2
  deferred := by
    have visited : visit host (loop.under .deferred) rule start =
        .ok (some rule.actions) start := visit_of_deferred before rfl silent
    rw [pass_of_visit visited, handsOver.deferred]
    rfl
  inline := by
    have visited : visit host (loop.under .inline) rule now =
        .ok none (runBatch host rule.actions now) := visit_of_silent meanwhile rfl silent
    rw [pass_of_visit visited, handsOver.inline]
    rfl

end HandsOver

/-- If the rules do not feed each other, a pass that keeps the actions back does so, as long as
the conditions do not tell the two worlds apart. -/
theorem exists_handsOver {loop : Loop} {rules : List Rule} (unfed : Unfed loop.settings rules)
    {start now : World}
    (shares : ∀ rule ∈ rules, start.memory.Shares rule.condition.readNames now.memory) :
    ∃ batches failure, HandsOver loop rules start now batches failure := by
  induction rules generalizing now with
  | nil => exact ⟨[], none, by simp, fun _ => rfl, rfl, rfl⟩
  | cons rule rest induction =>
      have direct := unfed.direct rule (by simp)
      rw [List.forall_mem_cons] at shares
      rcases holds_of_shares direct (unfed.judging rule (by simp)) start with
        ⟨outcome, succeeds, judged⟩
      have before := judged start (.refl _ _)
      have meanwhile := judged now shares.1
      cases outcome with
      | error cause =>
          refine ⟨[], some cause, .abort (fun legible => ?_) before meanwhile rest⟩
          rcases succeeds legible with ⟨held, given⟩
          cases given
      | ok held =>
          cases held with
          | false =>
              rcases induction unfed.of_cons shares.2 with ⟨batches, failure, handsOver⟩
              exact ⟨batches, failure, handsOver.skip before meanwhile⟩
          | true =>
              rcases exists_runBatch_eq direct.actions now with ⟨made, rows, among, runs⟩
              -- what is written meanwhile is read by none of the conditions behind
              have unread : ∀ other ∈ rest, start.memory.Shares other.condition.readNames
                  (runBatch host rule.actions now).memory := by
                intro other member
                rw [runs now (.refl _ _)]
                refine (shares.2 other member).writeAll_right _ fun entry isMade => ?_
                exact (List.pairwise_cons.mp unfed.apart).1 other member (among entry isMade)
              rcases induction unfed.of_cons unread with ⟨batches, failure, handsOver⟩
              exact ⟨rule.actions :: batches, failure, handsOver.fire direct.actions
                (unfed.silent rule (by simp)) before meanwhile⟩

/-- A tick with its pass over the rules done. -/
theorem tick_under_of_pass {loop : Loop} {foreground : Foreground} {before after : World}
    {batches : List Batch} {failure : Option Failure}
    (passed : pass host (loop.reload.1.under foreground) loop.reload.1.rules
      (recordAll host loop.reload.2 before) = ⟨batches, failure, after⟩) :
    (loop.under foreground).tick host before =
      (({ loop.reload.1 with
        ticks := loop.reload.1.ticks + 1
        queue := loop.reload.1.queue ++ batches } : Loop).under foreground,
        reportAbort host failure after) := by
  rw [tick, reload_under]
  dsimp only
  have rules : (loop.reload.1.under foreground).rules = loop.reload.1.rules := rfl
  rw [rules, passed]
  rfl

/-- Whether actions are run in the middle of a tick or after it makes no difference, as long as
the rules do not feed each other, but for the place of one report: where the tick is cut short,
the actions that wait fail after that was reported, and the others before it. -/
theorem drain_tick_deferred (loop : Loop) (world : World) (empty : loop.queue = [])
    (unfed : Unfed loop.settings loop.reload.1.rules) :
    let ticked := (loop.under .deferred).tick host world
    let drained := ticked.1.drain host ticked.2
    let now := (loop.under .inline).tick host world
    drained.1.under .inline = now.1 ∧ ∃ failure front rows,
      ((∀ rule ∈ loop.reload.1.rules, ∀ name ∈ rule.condition.readNames,
        world.memory.Legible name) → failure = none) ∧
      now.2.log = front ++ rows ++ abortLog failure ∧
      drained.2 = now.2.withLog (front ++ abortLog failure ++ rows) := by
  intro ticked drained now
  let start := recordAll host loop.reload.2 world
  have settings : loop.reload.1.settings = loop.settings := by rw [reload_fst]
  have queue : loop.reload.1.queue = [] := by rw [reload_fst, empty]
  rw [← settings] at unfed
  have unwritten : ∀ rule ∈ loop.reload.1.rules,
      start.memory.Shares rule.condition.readNames start.memory := fun _ _ => .refl _ _
  rcases exists_handsOver unfed unwritten with
    ⟨batches, failure, direct, passes, deferred, inline⟩
  rw [memory_recordAll] at passes
  rcases exists_runBatches_eq direct start with ⟨rows, runs⟩
  have ran : (runBatches host batches start).log = start.log ++ rows :=
    congrArg World.log (runs start.log)
  have isNow : now = _ := tick_under_of_pass inline
  have isDrained : drained = _ :=
    congrArg (fun ticked : Loop × World => ticked.1.drain host ticked.2)
      (tick_under_of_pass deferred)
  rw [isNow, isDrained, drain, reportAbort_eq, reportAbort_eq, ran]
  dsimp only [under]
  rw [queue, List.nil_append, List.nil_append, runs]
  exact ⟨rfl, failure, start.log, rows, passes, rfl, rfl⟩

end Loop

namespace Engine

/-- The engine with actions run elsewhere. -/
def under (foreground : Foreground) (engine : Engine) : Engine :=
  { engine with loop := engine.loop.under foreground }

section Door

/-- The light is switched on when the door is open, and the door is closed. -/
def doorRules : List Rule :=
  let isOpen : Expr := .equals (.call "Memory" "getStateParam" [.literal "door"]) (.literal "open")
  [⟨isOpen, [.call "Memory" "setStateParam" [.literal "light", .literal "on"]]⟩,
   ⟨isOpen, [.call "Memory" "setStateParam" [.literal "door", .literal "closed"],
      .call "Memory" "setStateParam" [.literal "seen",
        .call "Memory" "getStateParam" [.literal "light"]]]⟩]

def door : Engine :=
  ⟨(World.fresh {} (Robot.idle [] [] false) []).writeAll [("door", .text "open")],
    { Loop.idle {} .inline [] with isPending := false, rules := doorRules }⟩

theorem unfed_doorRules : Loop.Unfed {} doorRules where
  direct := by
    simp only [doorRules, List.forall_mem_cons, List.not_mem_nil, false_implies, implies_true,
      and_true]
    have isOpen : Expr.IsDirect (.equals (.call "Memory" "getStateParam" [.literal "door"])
        (.literal "open")) := .equals (.read _) (.literal _)
    refine ⟨⟨isOpen, ?_⟩, ⟨isOpen, ?_⟩⟩
    · exact List.forall_mem_singleton.mpr (.write _ (.literal _))
    · exact List.forall_mem_cons.mpr ⟨.write _ (.literal _),
        List.forall_mem_singleton.mpr (.write _ (.read _))⟩
  silent := by decide
  judging := by decide
  apart := by
    apply List.pairwise_pair.mpr
    rw [List.disjoint_iff_ne]
    decide

end Door

section Vast

/-- Both an action and a later condition read a parameter that cannot be written. -/
def vastRules : List Rule :=
  let vast : Expr := .call "Memory" "getStateParam" [.literal "vast"]
  [⟨.equals (.literal "a") (.literal "a"), [vast]⟩, ⟨vast, []⟩]

def vast : Engine :=
  ⟨(World.fresh {} (Robot.idle [] [] false) []).writeAll [("vast", .integer (10 ^ 5000))],
    { Loop.idle {} .inline [] with isPending := false, rules := vastRules }⟩

theorem unfed_vastRules : Loop.Unfed {} vastRules where
  direct := by
    simp only [vastRules, List.forall_mem_cons, List.not_mem_nil, false_implies, implies_true,
      and_true]
    exact ⟨⟨.equals (.literal _) (.literal _), List.forall_mem_singleton.mpr (.read _)⟩,
      ⟨.read _, by simp⟩⟩
  silent := by decide
  judging := by decide
  apart := by
    apply List.pairwise_pair.mpr
    rw [List.disjoint_iff_ne]
    decide

/-- Where a condition reads what cannot be written, the log tells whether the actions waited. -/
theorem not_deferral_unseen_vast : vast.loop.queue = [] ∧
    Loop.Unfed vast.loop.settings vast.loop.reload.1.rules ∧
    ((vast.under .inline).tick.world.log.map LogEntry.message =
      ["Foreground action failed: ValueError".toList,
        "Rule evaluation aborted for this tick: ValueError".toList]) ∧
    (((vast.under .deferred).tick.drain).under .inline).world.log.map LogEntry.message =
      ["Rule evaluation aborted for this tick: ValueError".toList,
        "Foreground action failed: ValueError".toList] := by
  refine ⟨rfl, unfed_vastRules, ?_, ?_⟩ <;>
  · decide +kernel

end Vast

end Engine

end RobotRules
