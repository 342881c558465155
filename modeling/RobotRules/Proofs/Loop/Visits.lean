import RobotRules.Loop.Tick
import RobotRules.Proofs.Evaluation.Steps

/-! Visits to rules. What a tick does to the state is a sequence of deeds, and the outcome of
each deed decides what the next one is: a failing action of a rule that does not speak ends
only the actions of that rule, and any other failure ends the tick. So there is only one way
for the visits to go on from a state. -/

namespace RobotRules

/-- Something that a tick does to the state. -/
inductive Deed where
  /-- The condition of a rule is evaluated: its value, or why it has none. -/
  | judge (rule : Rule) (outcome : Except Failure Value)
  | act (action : Expr) (outcome : Except Failure Value)
  | report (entry : LogEntry)

namespace Deed

def judged? : Deed → Option Rule
  | judge rule _ => some rule
  | act .. | report _ => none

def reported? : Deed → Option LogEntry
  | judge .. | act .. => none
  | report entry => some entry

end Deed

/-- What deeds make of a state. Each is done in the state that the one before it left. -/
inductive Host.Does {σ : Type} (host : Host σ) : List Deed → σ → σ → Prop
  | nil (state : σ) : Does host [] state state
  | judge {rule : Rule} {outcome : Except Failure Value} {deeds : List Deed}
      {before between after : σ} :
      rule.condition.evaluate host before = Act.give outcome between →
      Does host deeds between after → Does host (.judge rule outcome :: deeds) before after
  | act {action : Expr} {outcome : Except Failure Value} {deeds : List Deed}
      {before between after : σ} :
      action.evaluate host before = Act.give outcome between →
      Does host deeds between after → Does host (.act action outcome :: deeds) before after
  | report {entry : LogEntry} {deeds : List Deed} {before after : σ} :
      Does host deeds (host.record entry before) after →
      Does host (.report entry :: deeds) before after

namespace Host

variable {σ : Type} {host : Host σ} {deeds others : List Deed} {before between after : σ}

theorem Does.append (first : host.Does deeds before between)
    (next : host.Does others between after) : host.Does (deeds ++ others) before after := by
  induction first with
  | nil => exact next
  | judge judged _ induction => exact .judge judged (induction next)
  | act acted _ induction => exact .act acted (induction next)
  | report _ induction => exact .report (induction next)

/-! What is done next in a state has only one outcome. -/

section Alike

variable {more : List Deed} {last : σ}

theorem Does.of_judge {rule : Rule} {outcome other : Except Failure Value}
    (does : host.Does (.judge rule outcome :: more) before after)
    (doesOther : host.Does (.judge rule other :: others) before last) :
    outcome = other ∧ ∃ between, host.Does more between after ∧ host.Does others between last := by
  cases does with
  | judge judged rest =>
      cases doesOther with
      | judge otherJudged restOther =>
          rcases Act.give_inj (judged.symm.trans otherJudged) with ⟨same, rfl⟩
          exact ⟨same, _, rest, restOther⟩

theorem Does.of_act {action : Expr} {outcome other : Except Failure Value}
    (does : host.Does (.act action outcome :: more) before after)
    (doesOther : host.Does (.act action other :: others) before last) :
    outcome = other ∧ ∃ between, host.Does more between after ∧ host.Does others between last := by
  cases does with
  | act acted rest =>
      cases doesOther with
      | act otherActed restOther =>
          rcases Act.give_inj (acted.symm.trans otherActed) with ⟨same, rfl⟩
          exact ⟨same, _, rest, restOther⟩

theorem Does.of_reports {log : Log} (does : host.Does (log.map .report ++ more) before after)
    (doesOther : host.Does (log.map .report ++ others) before last) :
    ∃ between, host.Does more between after ∧ host.Does others between last := by
  induction log generalizing before with
  | nil => exact ⟨before, does, doesOther⟩
  | cons entry rest induction =>
      cases does with
      | report rest =>
          cases doesOther with
          | report restOther => exact induction rest restOther

end Alike

end Host

namespace Loop

/-- Actions are run in order up to the first that fails. -/
inductive Acted : List Expr → List Deed → Except Failure Unit → Prop
  | nil : Acted [] [] (.ok ())
  | fail {action : Expr} {rest : List Expr} {failure : Failure} :
      Acted (action :: rest) [.act action (.error failure)] (.error failure)
  | goOn {action : Expr} {rest : List Expr} {value : Value} {deeds : List Deed}
      {outcome : Except Failure Unit} : Acted rest deeds outcome →
      Acted (action :: rest) (.act action (.ok value) :: deeds) outcome

/-- How the look at a rule ends. -/
inductive Ending where
  | finished
  /-- A failure ends the actions of the rule. -/
  | contained (failure : Failure)
  /-- A failure ends the tick. -/
  | aborted (failure : Failure)

namespace Ending

/-- How the actions of a rule end: a failure of a rule that speaks ends the tick. -/
def ofActions (isSpeaking : Bool) : Except Failure Unit → Ending
  | .ok _ => finished
  | .error failure => if isSpeaking then aborted failure else contained failure

/-- What is reported of a failure. -/
def log : Ending → Log
  | finished => []
  | contained failure =>
    [⟨.warning, channel, "Foreground action failed: " ++ failure.report⟩]
  | aborted failure =>
    [⟨.error, channel, "Rule evaluation aborted for this tick: " ++ failure.report⟩]

end Ending

/-- The look at a rule: what its condition comes to, the actions that are evaluated, and how
it ends. -/
structure Visit where
  rule : Rule
  judgement : Except Failure Value
  acts : List Deed
  ending : Ending

namespace Visit

/-- All that is done. A failure is reported last. -/
def deeds (visit : Visit) : List Deed :=
  .judge visit.rule visit.judgement :: (visit.acts ++ visit.ending.log.map .report)

def IsAborted (visit : Visit) : Prop := ∃ failure, visit.ending = .aborted failure

end Visit

/-- The visits that can be paid: what the condition comes to decides whether the actions are
run, and what they come to how the visit ends. -/
inductive IsVisit (settings : LoopConfig) (rule : Rule) : Visit → Prop
  | doubtful {failure : Failure} :
      IsVisit settings rule ⟨rule, .error failure, [], .aborted failure⟩
  | unmet {value : Value} : value.asBool = false →
      IsVisit settings rule ⟨rule, .ok value, [], .finished⟩
  | met {value : Value} {acts : List Deed} {outcome : Except Failure Unit} :
      value.asBool = true → Acted rule.actions acts outcome →
      IsVisit settings rule ⟨rule, .ok value, acts,
        .ofActions (rule.actions.any (speaks settings)) outcome⟩

/-- The visits to rules in order, up to the first that ends the tick. -/
inductive AreVisits (settings : LoopConfig) : List Rule → List Visit → Prop
  | nil : AreVisits settings [] []
  | cut {rule : Rule} {rest : List Rule} {last : Visit} : IsVisit settings rule last →
      last.IsAborted → AreVisits settings (rule :: rest) [last]
  | goOn {rule : Rule} {rest : List Rule} {first : Visit} {visits : List Visit} :
      IsVisit settings rule first → ¬first.IsAborted → AreVisits settings rest visits →
      AreVisits settings (rule :: rest) (first :: visits)

/-- The visits that a pass over rules consists of. -/
structure IsCourse {σ : Type} (host : Host σ) (settings : LoopConfig) (rules : List Rule)
    (before after : σ) (visits : List Visit) : Prop where
  areVisits : AreVisits settings rules visits
  does : host.Does (visits.flatMap Visit.deeds) before after

/-! Only one course leads on from a state. -/

section Uniqueness

variable {σ : Type} {host : Host σ} {settings : LoopConfig} {before after last : σ}
  {more others : List Deed}

theorem Acted.unique {actions : List Expr} {acts otherActs : List Deed}
    {outcome otherOutcome : Except Failure Unit} (acted : Acted actions acts outcome)
    (otherActed : Acted actions otherActs otherOutcome)
    (does : host.Does (acts ++ more) before after)
    (doesOther : host.Does (otherActs ++ others) before last) :
    acts = otherActs ∧ outcome = otherOutcome ∧
      ∃ between, host.Does more between after ∧ host.Does others between last := by
  induction acted generalizing before otherActs with
  | nil =>
      cases otherActed with
      | nil => exact ⟨rfl, rfl, before, does, doesOther⟩
  | fail =>
      cases otherActed with
      | fail =>
          rcases does.of_act doesOther with ⟨same, rests⟩
          cases same
          exact ⟨rfl, rfl, rests⟩
      | goOn => cases (does.of_act doesOther).1
  | goOn _ induction =>
      cases otherActed with
      | fail => cases (does.of_act doesOther).1
      | goOn otherActed =>
          rcases does.of_act doesOther with ⟨same, _, rest, restOther⟩
          cases same
          rcases induction otherActed rest restOther with ⟨rfl, sameOutcome, rests⟩
          exact ⟨rfl, sameOutcome, rests⟩

theorem IsVisit.unique {rule : Rule} {visit other : Visit} (isVisit : IsVisit settings rule visit)
    (isOther : IsVisit settings rule other)
    (does : host.Does (visit.deeds ++ more) before after)
    (doesOther : host.Does (other.deeds ++ others) before last) :
    visit = other ∧ ∃ between, host.Does more between after ∧ host.Does others between last := by
  cases isVisit with
  | doubtful =>
      cases isOther with
      | doubtful =>
          rcases does.of_judge doesOther with ⟨same, _, rest, restOther⟩
          cases same
          exact ⟨rfl, rest.of_reports restOther⟩
      | unmet | met => cases (does.of_judge doesOther).1
  | unmet isFalse =>
      cases isOther with
      | doubtful => cases (does.of_judge doesOther).1
      | unmet =>
          rcases does.of_judge doesOther with ⟨same, rests⟩
          cases same
          exact ⟨rfl, rests⟩
      | met isTrue =>
          cases (does.of_judge doesOther).1
          cases isTrue.symm.trans isFalse
  | met isTrue acted =>
      cases isOther with
      | doubtful => cases (does.of_judge doesOther).1
      | unmet isFalse =>
          cases (does.of_judge doesOther).1
          cases isTrue.symm.trans isFalse
      | met _ otherActed =>
          rcases does.of_judge doesOther with ⟨same, _, rest, restOther⟩
          cases same
          simp only [List.append_eq, List.append_assoc] at rest restOther
          rcases acted.unique otherActed rest restOther with ⟨rfl, rfl, _, reports, reportsOther⟩
          exact ⟨rfl, reports.of_reports reportsOther⟩

theorem AreVisits.unique {rules : List Rule} {visits otherVisits : List Visit}
    (areVisits : AreVisits settings rules visits)
    (areOthers : AreVisits settings rules otherVisits)
    (does : host.Does (visits.flatMap Visit.deeds) before after)
    (doesOther : host.Does (otherVisits.flatMap Visit.deeds) before last) :
    visits = otherVisits := by
  induction areVisits generalizing before otherVisits with
  | nil =>
      cases areOthers
      rfl
  | cut isLast aborted =>
      rw [List.flatMap_cons] at does
      cases areOthers with
      | cut isOther _ =>
          rw [List.flatMap_cons] at doesOther
          rw [(isLast.unique isOther does doesOther).1]
      | goOn isOther goesOn _ =>
          rw [List.flatMap_cons] at doesOther
          obtain rfl := (isLast.unique isOther does doesOther).1
          exact absurd aborted goesOn
  | goOn isFirst goesOn _ induction =>
      rw [List.flatMap_cons] at does
      cases areOthers with
      | cut isOther aborted =>
          rw [List.flatMap_cons] at doesOther
          obtain rfl := (isFirst.unique isOther does doesOther).1
          exact absurd aborted goesOn
      | goOn isOther _ areOthers =>
          rw [List.flatMap_cons] at doesOther
          rcases isFirst.unique isOther does doesOther with ⟨rfl, _, rest, restOther⟩
          rw [induction areOthers rest restOther]

end Uniqueness

/-! What can be read off a course. -/

section Reading

variable {settings : LoopConfig} {rule : Rule} {rules : List Rule} {visit : Visit}
  {visits : List Visit}

theorem Acted.not_judged_or_reported {actions : List Expr} {acts : List Deed}
    {outcome : Except Failure Unit} (acted : Acted actions acts outcome) :
    acts.filterMap Deed.judged? = [] ∧ acts.filterMap Deed.reported? = [] := by
  induction acted with
  | nil | fail => exact ⟨rfl, rfl⟩
  | goOn _ induction => exact induction

namespace IsVisit

theorem rule_eq (isVisit : IsVisit settings rule visit) : visit.rule = rule := by
  cases isVisit <;> rfl

theorem not_judged_or_reported (isVisit : IsVisit settings rule visit) :
    visit.acts.filterMap Deed.judged? = [] ∧ visit.acts.filterMap Deed.reported? = [] := by
  cases isVisit with
  | doubtful | unmet => exact ⟨rfl, rfl⟩
  | met _ acted => exact acted.not_judged_or_reported

theorem judged (isVisit : IsVisit settings rule visit) :
    visit.deeds.filterMap Deed.judged? = [visit.rule] := by
  simp [Visit.deeds, Deed.judged?, isVisit.not_judged_or_reported, List.filterMap_map]

theorem reported (isVisit : IsVisit settings rule visit) :
    visit.deeds.filterMap Deed.reported? = visit.ending.log := by
  have entries : Deed.reported? ∘ Deed.report = some := rfl
  simp [Visit.deeds, List.filterMap_cons, Deed.reported?, isVisit.not_judged_or_reported,
    List.filterMap_map, entries]

end IsVisit

namespace AreVisits

/-- The condition of each rule that is visited is evaluated once. -/
theorem judged (areVisits : AreVisits settings rules visits) :
    (visits.flatMap Visit.deeds).filterMap Deed.judged? = visits.map Visit.rule := by
  induction areVisits with
  | nil => rfl
  | cut isLast => simp [isLast.judged]
  | goOn isFirst _ _ induction => simp [isFirst.judged, induction]

theorem reported (areVisits : AreVisits settings rules visits) :
    (visits.flatMap Visit.deeds).filterMap Deed.reported? =
      visits.flatMap fun visit => visit.ending.log := by
  induction areVisits with
  | nil => rfl
  | cut isLast => simp [isLast.reported]
  | goOn isFirst _ _ induction => simp [isFirst.reported, induction]

/-- Either no visit ends the tick and all rules are visited, or the last visit does and the
rules behind its rule are not visited. -/
theorem extent (areVisits : AreVisits settings rules visits) :
    (visits.map Visit.rule = rules ∧ ∀ visit ∈ visits, ¬visit.IsAborted) ∨
      ∃ done last rest, visits = done ++ [last] ∧
        rules = done.map Visit.rule ++ last.rule :: rest ∧
        (∀ visit ∈ done, ¬visit.IsAborted) ∧ last.IsAborted := by
  induction areVisits with
  | nil => exact .inl ⟨rfl, List.forall_mem_nil _⟩
  | @cut _ rest last isLast aborted =>
      exact .inr ⟨[], last, rest, rfl, by rw [isLast.rule_eq]; rfl, List.forall_mem_nil _, aborted⟩
  | @goOn _ _ first _ isFirst goesOn _ induction =>
      have goOn {visits : List Visit} (others : ∀ visit ∈ visits, ¬visit.IsAborted) :
          ∀ visit ∈ first :: visits, ¬visit.IsAborted :=
        List.forall_mem_cons.mpr ⟨goesOn, others⟩
      rcases induction with ⟨rfl, others⟩ | ⟨done, last, rest, rfl, rfl, others, aborted⟩
      · exact .inl ⟨by rw [List.map_cons, isFirst.rule_eq], goOn others⟩
      · exact .inr ⟨first :: done, last, rest, rfl, by rw [List.map_cons, isFirst.rule_eq]; rfl,
          goOn others, aborted⟩

end AreVisits

end Reading

/-! The reports of a course. -/

/-- Whether an entry reports that a failure ended a tick. -/
def isAbort (entry : LogEntry) : Bool :=
  ("Rule evaluation aborted for this tick: " : Text).isPrefixOf entry.message

theorem countP_isAbort_of_not_isAborted {visit : Visit} (goesOn : ¬visit.IsAborted) :
    visit.ending.log.countP isAbort = 0 := by
  cases ending : visit.ending with
  | finished => rfl
  | contained failure => rfl
  | aborted failure => exact absurd ⟨failure, ending⟩ goesOn

theorem countP_isAbort_of_isAborted {visit : Visit} (aborted : visit.IsAborted) :
    visit.ending.log.countP isAbort = 1 := by
  rcases aborted with ⟨failure, ending⟩
  rw [ending]
  rfl

theorem countP_isAbort_of_forall {visits : List Visit}
    (goOn : ∀ visit ∈ visits, ¬visit.IsAborted) :
    (visits.flatMap fun visit => visit.ending.log).countP isAbort = 0 := by
  rw [List.countP_eq_zero]
  intro entry member
  rcases List.mem_flatMap.mp member with ⟨visit, among, member⟩
  exact List.countP_eq_zero.mp (countP_isAbort_of_not_isAborted (goOn visit among)) entry member

/-- Either all rules are visited and no abort is reported, or the visit that ends the tick is
the last one, and the only one whose report is an abort. -/
theorem AreVisits.aborts {settings : LoopConfig} {rules : List Rule} {visits : List Visit}
    (areVisits : AreVisits settings rules visits) :
    let reports := (visits.flatMap Visit.deeds).filterMap Deed.reported?
    (visits.map Visit.rule = rules ∧ (∀ visit ∈ visits, ¬visit.IsAborted) ∧
        reports.countP isAbort = 0) ∨
      ∃ done last rest, visits = done ++ [last] ∧
        rules = done.map Visit.rule ++ last.rule :: rest ∧
        (∀ visit ∈ done, ¬visit.IsAborted) ∧ last.IsAborted ∧ reports.countP isAbort = 1 := by
  intro reports
  have reported : reports = visits.flatMap fun visit => visit.ending.log := areVisits.reported
  rcases areVisits.extent with ⟨all, goOn⟩ | ⟨done, last, rest, rfl, rules, goOn, aborted⟩
  · refine .inl ⟨all, goOn, ?_⟩
    rw [reported, countP_isAbort_of_forall goOn]
  · refine .inr ⟨done, last, rest, rfl, rules, goOn, aborted, ?_⟩
    rw [reported, List.flatMap_append, List.countP_append, countP_isAbort_of_forall goOn,
      List.flatMap_singleton, countP_isAbort_of_isAborted aborted]

end Loop

end RobotRules
