import RobotRules.Proofs.Capability.Agreement
import RobotRules.Proofs.Evaluation.Footprint
import RobotRules.Proofs.Loop.Legibility

/-! Rules that change places. A pass in a world that cannot be told from another one goes the
same way. If of two neighbouring rules neither touches what the other one writes, the pass
comes to such worlds after both of them, whichever is the first, and goes on alike. -/

namespace RobotRules

namespace Loop

open Act (Respects respects_pure respects_throw respects_modify)

section Respecting

variable {σ : Type} {host : Host σ} {alike : σ → σ → Prop} (respects : host.Respects alike)

include respects

theorem alike_runBatch (batch : Batch) {state other : σ} (related : alike state other) :
    alike (runBatch host batch state) (runBatch host batch other) := by
  rcases Expr.respects_runAll respects batch related with
    ⟨outcome, next, next', meanwhile, done, done'⟩
  rw [runBatch, runBatch, done, done']
  cases outcome with
  | ok value => exact meanwhile
  | error failure => exact respects.record _ meanwhile

theorem respects_submit (loop : Loop) (batch : Batch) :
    Respects alike (submit host loop batch) := by
  unfold submit
  split
  · exact (respects_modify fun related => alike_runBatch respects batch related).bind fun _ =>
      respects_pure _
  · exact respects_pure _
  · split
    · exact respects_throw _
    · exact respects_pure _

theorem respects_visit (loop : Loop) (rule : Rule) : Respects alike (visit host loop rule) := by
  refine (Expr.respects_holds respects rule.condition).bind fun held => ?_
  cases held with
  | false => exact respects_pure _
  | true =>
      by_cases speaks : rule.actions.any (Loop.speaks loop.settings) = true
      · simp only [speaks]
        exact (Expr.respects_runAll respects rule.actions).bind fun _ => respects_pure _
      · simp only [speaks]
        exact respects_submit respects loop rule.actions

end Respecting

end Loop

/-- Two passes hand over the same batches and end in the same way, in states that are alike. -/
structure Pass.Agrees {σ : Type} (alike : σ → σ → Prop) (pass other : Pass σ) : Prop where
  batches : pass.batches = other.batches
  failure : pass.failure = other.failure
  state : alike pass.state other.state

namespace Loop

open Act (Respects reached)

section Passing

variable {σ : Type} {host : Host σ} {alike : σ → σ → Prop}

/-- One rule in front of two passes. -/
theorem pass_cons_agrees (loop : Loop) {rule : Rule} {rest rest' : List Rule} {state other : σ}
    (visits : Respects alike (visit host loop rule)) (related : alike state other)
    (later : ∀ {next'}, alike (reached (visit host loop rule state)) next' →
      (pass host loop rest (reached (visit host loop rule state))).Agrees alike
        (pass host loop rest' next')) :
    (pass host loop (rule :: rest) state).Agrees alike (pass host loop (rule :: rest') other) := by
  rcases visits related with ⟨outcome, next, next', meanwhile, done, done'⟩
  rw [done] at later
  rw [pass, pass, done, done']
  cases outcome with
  | error failure => exact ⟨rfl, rfl, meanwhile⟩
  | ok batch =>
      have agrees := later meanwhile
      exact ⟨congrArg (batch.toList ++ ·) agrees.batches, agrees.failure, agrees.state⟩

variable (respects : host.Respects alike)

include respects

/-- The same rules in front of two passes. They may rely on what these rules preserve. -/
theorem pass_append_agrees {kept : σ → Prop} (preserves : host.Preserves kept) (loop : Loop)
    (front : List Rule) {rest rest' : List Rule}
    (later : ∀ {state other}, kept state → alike state other →
      (pass host loop rest state).Agrees alike (pass host loop rest' other))
    {state other : σ} (holds : kept state) (related : alike state other) :
    (pass host loop (front ++ rest) state).Agrees alike
      (pass host loop (front ++ rest') other) := by
  induction front generalizing state other with
  | nil => exact later holds related
  | cons rule front induction =>
      exact pass_cons_agrees loop (respects_visit respects loop rule) related
        (induction (keeps_visit preserves loop rule state holds))

theorem pass_agrees (loop : Loop) (rules : List Rule) {state other : σ}
    (related : alike state other) :
    (pass host loop rules state).Agrees alike (pass host loop rules other) := by
  induction rules generalizing state other with
  | nil => exact ⟨rfl, rfl, related⟩
  | cons rule rest induction =>
      exact pass_cons_agrees loop (respects_visit respects loop rule) related induction

end Passing

end Loop

/-- Neither of two rules touches what the other one writes. -/
structure Rule.Independent (one two : Rule) : Prop where
  unread : one.writtenNames.Disjoint two.readNames
  unread' : two.writtenNames.Disjoint one.readNames
  unwritten : one.writtenNames.Disjoint two.writtenNames

namespace World

variable {reads reads' writes writes' : List Text} {α β : Type}

/-- Actions that do not touch what the other one writes can be done in any order, as long as what
they read is legible. -/
theorem Confined.exists_commute {one : Action α} {two : Action β}
    (first : Confined reads writes one) (second : Confined reads' writes' two)
    (unread : writes.Disjoint reads') (unread' : writes'.Disjoint reads)
    (unwritten : writes.Disjoint writes') {world : World}
    (legible : Legible (reads ++ reads') world) :
    ∃ value value' between between' after after', after.Agrees after' ∧
      one world = .ok value between ∧ two between = .ok value' after ∧
      two world = .ok value' between' ∧ one between' = .ok value after' := by
  have ⟨legibleFirst, legibleSecond⟩ := List.forall_mem_append.mp legible
  rcases first.exists_value legibleFirst with ⟨value, made, among, runs⟩
  rcases second.exists_value legibleSecond with ⟨value', made', among', runs'⟩
  have shares : world.memory.Shares reads' (world.writeAll made).memory :=
    (Memory.Shares.refl _ _).writeAll_right _ fun entry member => unread (among entry member)
  have shares' : world.memory.Shares reads (world.writeAll made').memory :=
    (Memory.Shares.refl _ _).writeAll_right _ fun entry member => unread' (among' entry member)
  refine ⟨value, value', _, _, _, _, ?_, runs world (.refl _ _), runs' _ shares,
    runs' world (.refl _ _), runs _ shares'⟩
  have apart : ∀ entry ∈ made, ∀ other ∈ made', other.1 ≠ entry.1 := by
    intro entry member other member' same
    exact unwritten (among entry member) (same ▸ among' other member')
  rw [← writeAll_append, ← writeAll_append]
  exact ⟨Memory.agrees_writeAll_comm apart world.clock world.memory, rfl⟩

end World

namespace Loop

open World (host Confined confined_pure)

section Swap

variable {loop : Loop} {one two rule : Rule}

/-- What a rule does where the actions are run at once. -/
def follow (rule : Rule) : World.Action Unit := do
  if ← rule.condition.holds host then Expr.runAll host rule.actions

theorem confined_follow (direct : rule.IsDirect) :
    Confined rule.readNames rule.writtenNames (follow rule) := by
  refine (direct.condition.confined.map Value.asBool).bind fun {_ _ held} _ => ?_
  cases held with
  | false => exact (confined_pure ()).mono (List.nil_subset _) (List.nil_subset _)
  | true => exact Expr.confined_runAll direct.actions

theorem visit_of_follow (inline : loop.foreground = .inline) {before after : World}
    (follows : follow rule before = .ok () after) :
    visit host loop rule before = .ok none after := by
  rcases Act.bind_eq_ok_iff.mp follows with ⟨held, between, met, ran⟩
  cases held with
  | false =>
      cases ran
      exact visit_of_not_holds met
  | true =>
      change Expr.runAll host rule.actions between = .ok () after at ran
      cases speaking : rule.actions.any (speaks loop.settings) with
      | true => exact (visit_of_speaks met speaking).trans (Act.bind_of_ok _ ran)
      | false => rw [visit_of_silent met inline speaking, runBatch, ran]

theorem pass_swap_agrees (inline : loop.foreground = .inline) (direct : one.IsDirect)
    (direct' : two.IsDirect) (independent : one.Independent two) (back : List Rule)
    {world other : World} (legible : world.Legible (one.readNames ++ two.readNames))
    (agrees : world.Agrees other) :
    (pass host loop (one :: two :: back) world).Agrees World.Agrees
      (pass host loop (two :: one :: back) other) := by
  have swapped : (pass host loop (one :: two :: back) world).Agrees World.Agrees
      (pass host loop (two :: one :: back) world) := by
    rcases (confined_follow direct).exists_commute (confined_follow direct') independent.unread
      independent.unread' independent.unwritten legible with
      ⟨_, _, between, between', after, after', afterwards, first, second, first', second'⟩
    rw [pass_of_visit (visit_of_follow inline first),
      pass_of_visit (visit_of_follow inline second),
      pass_of_visit (visit_of_follow inline first'),
      pass_of_visit (visit_of_follow inline second')]
    exact pass_agrees World.respects_host loop back afterwards
  have same := pass_agrees World.respects_host loop (two :: one :: back) agrees
  exact ⟨swapped.batches.trans same.batches, swapped.failure.trans same.failure,
    swapped.state.trans same.state⟩

theorem agrees_reportAbort {passed other : Pass World} (agrees : passed.Agrees World.Agrees other) :
    (reportAbort host passed.failure passed.state).Agrees
      (reportAbort host other.failure other.state) := by
  rw [← agrees.failure]
  cases passed.failure with
  | none => exact agrees.state
  | some failure => exact World.respects_host.record _ agrees.state

end Swap

end Loop

namespace Engine

open World (host)

/-- The engine whose loop goes by the rules, and runs actions at once. -/
def ruledBy (rules : List Rule) (engine : Engine) : Engine :=
  { engine with
    loop := { engine.loop with
      foreground := .inline
      isPending := false
      rules := rules } }

/-- The pass of a tick depends on the rules that it goes through, and not on those that the loop
holds. -/
theorem pass_ruledBy (engine : Engine) (held rules : List Rule) (world : World) :
    Loop.pass host (engine.ruledBy held).loop rules world =
      Loop.pass host (engine.ruledBy []).loop rules world := by
  induction rules generalizing world with
  | nil => rfl
  | cons rule rest induction =>
      have same : Loop.visit host (engine.ruledBy held).loop rule =
          Loop.visit host (engine.ruledBy []).loop rule := rfl
      rw [Loop.pass, Loop.pass, same]
      cases Loop.visit host (engine.ruledBy []).loop rule world with
      | error failure state => rfl
      | ok batch state =>
          dsimp only
          rw [induction]

theorem world_tick_ruledBy (engine : Engine) (rules : List Rule) :
    (engine.ruledBy rules).tick.world =
      Loop.reportAbort host
        (Loop.pass host (engine.ruledBy []).loop rules engine.world).failure
        (Loop.pass host (engine.ruledBy []).loop rules engine.world).state := by
  have reloaded : (engine.ruledBy rules).loop.reload = ((engine.ruledBy rules).loop, []) := rfl
  rw [← pass_ruledBy engine rules, tick, Loop.tick, reloaded]
  rfl

section Porch

def doorIsOpen : Expr :=
  .equals (.call "Memory" "getStateParam" [.literal "door"]) (.literal "open")

def lightUp : Rule :=
  ⟨doorIsOpen, [.call "Memory" "setStateParam" [.literal "light", .literal "on"]]⟩

def noteVisitor : Rule :=
  ⟨doorIsOpen, [.call "Memory" "setStateParam" [.literal "visitor",
    .call "Memory" "getStateParam" [.literal "name"]]]⟩

/-- A rule that depends on both, and does not only deal with memory. -/
def welcome : Rule :=
  ⟨.equals (.call "Memory" "getStateParam" [.literal "light"]) (.literal "on"),
    [.call "TTS" "speak" [.call "Memory" "getStateParam" [.literal "visitor"]]]⟩

def porch : Engine :=
  ⟨(World.fresh {} (Robot.idle [] [] false) []).writeAll
    [("door", .text "open"), ("name", .text "guest")], Loop.idle {} .inline []⟩

theorem isDirect_doorIsOpen : doorIsOpen.IsDirect := .equals (.read _) (.literal _)

theorem isDirect_lightUp : lightUp.IsDirect :=
  ⟨isDirect_doorIsOpen, List.forall_mem_singleton.mpr (.write _ (.literal _))⟩

theorem isDirect_noteVisitor : noteVisitor.IsDirect :=
  ⟨isDirect_doorIsOpen, List.forall_mem_singleton.mpr (.write _ (.read _))⟩

theorem independent_porch : lightUp.Independent noteVisitor := by
  constructor <;>
  · rw [List.disjoint_iff_ne]
    decide

end Porch

section Vast

/-- A condition that reads a parameter which cannot be written. -/
def seeVast : Rule := ⟨.call "Memory" "getStateParam" [.literal "vast"], []⟩

def noteVast : Rule :=
  ⟨.equals (.literal "a") (.literal "a"),
    [.call "Memory" "setStateParam" [.literal "note", .literal "b"]]⟩

def vastness : Engine :=
  ⟨(World.fresh {} (Robot.idle [] [] false) []).writeAll [("vast", .integer (10 ^ 5000))],
    Loop.idle {} .inline []⟩

/-- A rule that reads what cannot be written cuts the tick short, and so hides the rules behind
it, also if they have nothing to do with it. -/
theorem not_independent_commute_vast : seeVast.IsDirect ∧ noteVast.IsDirect ∧
    seeVast.Independent noteVast ∧
    ((vastness.ruledBy [seeVast, noteVast]).tick.world.memory.read (.text "note")).asText =
      [] ∧
    ((vastness.ruledBy [noteVast, seeVast]).tick.world.memory.read (.text "note")).asText =
      "b".toList := by
  refine ⟨⟨.read _, by simp [seeVast]⟩, ⟨.equals (.literal _) (.literal _),
    List.forall_mem_singleton.mpr (.write _ (.literal _))⟩, ?_, ?_, ?_⟩
  · constructor <;>
    · rw [List.disjoint_iff_ne]
      decide
  · decide +kernel
  · decide +kernel

end Vast

end Engine

end RobotRules
