import RobotRules.Proofs.Session.Rules

/-! The course of a tick in a session. Whatever the rules go by when it begins, it comes to
its end, and leaves the interaction at rest. -/

namespace RobotRules.Session

open Bundled
open RobotRules.Expr (holds_of_evaluate)
open Loop (Passes)

variable {session : Session} {mind mind' : Mind} {world : World}

/-! When the conditions hold. -/

section Conditions

variable {current : Text} (sound : Sound session mind world)
  (state : mind.state = .text current)

include sound state

theorem evaluate_stateIs (asked : Text) :
    (stateIs asked).evaluate World.host world = .ok (.boolean (current == asked)) world := by
  have read : (reading "interactionState").evaluate World.host world =
      .ok (.text current) world := by
    have legible := sound.legible.state
    rw [← sound.mind] at legible
    rw [← state, ← sound.mind]
    exact evaluate_reading legible
  have equal : (Value.text current).equal (.text asked) = (current == asked) := by
    simp [Value.equal, Value.kind, Value.same, Value.sameScalar]
  simp only [stateIs, Expr.evaluate, bind, EStateM.bind, read, pure, EStateM.pure, equal]

theorem evaluate_heardLike (pattern : Text) :
    (heardLike pattern).evaluate World.host world = .ok (.boolean
      (current == "asrReceived".toList && Pattern.matchesText pattern mind.heard.asText))
      world := by
  simp only [heardLike, Expr.evaluate, bind, EStateM.bind, evaluate_stateIs sound state,
    evaluate_heard sound, pure, EStateM.pure, Value.asBool]

theorem evaluate_lookUp : lookUp.condition.evaluate World.host world = .ok (.boolean
    (current == "asrReceived".toList && (Pattern.matchesText "look up" mind.heard.asText ||
      Pattern.matchesText "head up" mind.heard.asText))) world := by
  simp only [lookUp, Expr.evaluate, bind, EStateM.bind, evaluate_heardLike sound state, pure,
    EStateM.pure, Value.asBool, Bool.and_or_distrib_left]

/-- At rest no rule fires. -/
theorem holds_of_rest (active : current ≠ "Active".toList)
    (received : current ≠ "asrReceived".toList) (navigating : current ≠ "navigating".toList) :
    ∀ rule ∈ rules, rule.condition.holds World.host world = .ok false world := by
  have stays : ∀ {asked : Text}, current ≠ asked → (current == asked) = false := by simp
  have unlike : ∀ pattern, (heardLike pattern).evaluate World.host world =
      .ok (.boolean false) world := fun pattern => by
    rw [evaluate_heardLike sound state, stays received, Bool.false_and]
  have elsewhere : ∀ {asked : Text}, current ≠ asked →
      (stateIs asked).evaluate World.host world = .ok (.boolean false) world := fun other => by
    rw [evaluate_stateIs sound state, stays other]
  have noLookUp : lookUp.condition.evaluate World.host world = .ok (.boolean false) world := by
    rw [evaluate_lookUp sound state, stays received, Bool.false_and]
  simp only [rules, List.forall_mem_cons, List.not_mem_nil, false_implies, implies_true, and_true]
  exact ⟨holds_of_evaluate (elsewhere active), holds_of_evaluate (unlike _),
    holds_of_evaluate (elsewhere navigating), holds_of_evaluate (unlike _),
    holds_of_evaluate noLookUp, holds_of_evaluate (unlike _),
    holds_of_evaluate (elsewhere received)⟩

end Conditions

/-! The course of the pass over the rules. -/

/-- A pass over rules comes to its end, and some of them fire. -/
def Completes (session : Session) (loop : Loop) (rules : List Rule) (world : World)
    (fired : List Rule) (mind : Mind) (requests : List Chat.Request)
    (told : List RobotAction) : Prop :=
  ∃ after, Passes World.host loop rules world fired after ∧
    Leads session world mind requests told after

section Course

variable {loop : Loop} {rule : Rule} {others fired : List Rule}
  {requests requests' : List Chat.Request} {told told' : List RobotAction}

theorem Completes.skip (unmet : rule.condition.holds World.host world = .ok false world)
    (rest : Completes session loop others world fired mind requests told) :
    Completes session loop (rule :: others) world fired mind requests told := by
  rcases rest with ⟨after, passes, leads⟩
  exact ⟨after, passes.skip unmet, leads⟩

theorem Completes.fire (met : rule.condition.holds World.host world = .ok true world)
    (speaks : rule.actions.any (Loop.speaks loop.settings) = true)
    (does : Does session (Expr.runAll World.host rule.actions) world () mind requests told)
    (rest : ∀ {between}, Sound session mind between →
      Completes session loop others between fired mind' requests' told') :
    Completes session loop (rule :: others) world (rule :: fired) mind' (requests ++ requests')
      (told ++ told') := by
  rcases does with ⟨between, run, leads⟩
  rcases rest leads.sound with ⟨after, passes, leadsOn⟩
  exact ⟨after, passes.fire met speaks run, leads.trans leadsOn⟩

/-- With the interaction at rest, the rest of the rules is passed over. -/
theorem completes_of_rest (sound : Sound session mind world) {current : Text}
    (state : mind.state = .text current) (rest : current = "listening".toList ∨
      current = "idle".toList) (among : others ⊆ rules) :
    Completes session loop others world [] mind [] [] := by
  have unmet : ∀ rule ∈ rules, rule.condition.holds World.host world = .ok false world := by
    rcases rest with listening | idle
    · subst listening
      exact holds_of_rest sound state (by simp) (by simp) (by simp)
    · subst idle
      exact holds_of_rest sound state (by simp) (by simp) (by simp)
  exact ⟨world, .skipAll fun rule member => unmet rule (among member),
    .quiet sound rfl rfl rfl⟩

end Course

section Ticks

variable {loop : Loop} (settings : loop.settings = {})
  (canSpeak : ∀ text, session.Speaks text → session.CanSpeak text)
  (sound : Sound session mind world)

include settings

/-- Every rule speaks. -/
theorem speaks_of_mem : ∀ rule ∈ rules, rule.actions.any (Loop.speaks loop.settings) = true := by
  rw [settings]
  decide +kernel

/-- A rule that leaves the interaction at rest is the last one to fire. -/
theorem completes_at_rest {rule : Rule} {others : List Rule} (among : rule :: others ⊆ rules)
    {requests : List Chat.Request} {told : List RobotAction}
    (met : rule.condition.holds World.host world = .ok true world)
    (does : Does session (Expr.runAll World.host rule.actions) world () mind requests told)
    {current : Text} (state : mind.state = .text current)
    (rest : current = "listening".toList ∨ current = "idle".toList) :
    Completes session loop (rule :: others) world [rule] mind requests told := by
  have course := Completes.fire met (speaks_of_mem settings rule (among (by simp))) does
    fun sound => completes_of_rest sound state rest (List.subset_of_cons_subset among)
  rwa [List.append_nil, List.append_nil] at course

include canSpeak sound

theorem completes_active (state : mind.state = .text "Active") :
    Completes session loop rules world [greet]
      { mind.say greeting with state := .text "listening" } []
      (spoken greeting ++ [.finishConversation, .askQuestion " "]) :=
  completes_at_rest settings (List.Subset.refl _)
    (holds_of_evaluate (evaluate_stateIs sound state _)) (does_greet sound canSpeak) rfl (.inl rfl)

/-- A place that was taken down is driven to. -/
theorem completes_navigating {name : Text} (visible : ¬Text.isBlank name = true)
    (state : mind.state = .text "navigating") (noted : mind.destination = .text name) :
    Completes session loop [drive, namePlaces, lookUp, goHome, consult] world [drive]
      { mind.say "On my way" with state := .text "idle" } []
      (spoken "On my way" ++ [.goTo name false none]) :=
  completes_at_rest settings (by simp [rules])
    (holds_of_evaluate (evaluate_stateIs sound state _)) (does_drive sound canSpeak visible noted)
    rfl (.inr rfl)

end Ticks

/-! An utterance that was heard. -/

section Received

variable {loop : Loop} (settings : loop.settings = {})
  (canSpeak : ∀ text, session.Speaks text → session.CanSpeak text)
  (sound : Sound session mind world) (state : mind.state = .text "asrReceived")

include sound state

theorem holds_stateIs_received {asked : Text} (different : "asrReceived".toList ≠ asked) :
    (stateIs asked).holds World.host world = .ok false world := by
  have evaluated := evaluate_stateIs sound state asked
  rw [beq_eq_false_iff_ne.mpr different] at evaluated
  exact holds_of_evaluate evaluated

variable {utterance : Text} (heard : mind.heard = .text utterance)

include heard

theorem holds_heardLike_received {pattern : Text} {matched : Bool}
    (isMatched : Pattern.matchesText pattern utterance = matched) :
    (heardLike pattern).holds World.host world = .ok matched world := by
  have evaluated := evaluate_heardLike sound state pattern
  rw [heard, Value.asText, isMatched, beq_self_eq_true, Bool.true_and] at evaluated
  exact holds_of_evaluate evaluated

theorem holds_lookUp_received {matched : Bool}
    (isMatched : (Pattern.matchesText "look up" utterance ||
      Pattern.matchesText "head up" utterance) = matched) :
    lookUp.condition.holds World.host world = .ok matched world := by
  have evaluated := evaluate_lookUp sound state
  rw [heard, Value.asText, isMatched, beq_self_eq_true, Bool.true_and] at evaluated
  exact holds_of_evaluate evaluated

include settings canSpeak

/-- A drive: the place is taken down and driven to in one pass. -/
theorem exists_completes_depart
    (matched : Pattern.matchesText destinationPattern utterance = true) :
    ∃ name mind' told, ¬Text.isBlank name = true ∧ mind'.state = .text "idle" ∧
      RobotAction.goTo name false none ∈ told ∧
      Completes session loop rules.tail world [depart, drive] mind' [] told := by
  have shape : Pattern.ofText destinationPattern =
      ("go to ".toList.map Piece.literal) ++ [.placeholder] := by
    decide +kernel
  rcases Pattern.exists_extract?_of_matchesText shape matched with ⟨name, captured, visible⟩
  have ofHeard : Pattern.extract? destinationPattern mind.heard.asText 0 = some name := by
    rw [heard]
    exact captured
  have course := Completes.fire (holds_heardLike_received sound state heard matched)
    (speaks_of_mem settings depart (by simp [rules])) (does_depart sound canSpeak ofHeard)
    fun sound => completes_navigating settings canSpeak sound visible rfl rfl
  exact ⟨name, _, _, visible, rfl, by simp, course⟩

/-- The rules behind those for a drive. -/
theorem exists_completes_others
    (chat : ∀ count question lines failure,
      session.answer count question lines = .error failure → ∃ error, failure = .chat error)
    (last : mind.lines.getLast? = some (Line.user utterance))
    (unmatched : ¬Pattern.matchesText destinationPattern utterance = true) :
    ∃ mind' requests told, mind'.state = .text "idle" ∧ requests.length ≤ 1 ∧
      (∀ request ∈ requests, Chat.member? "messages" request.body = .ok (.list
        ((Line.system Chat.standardInstructions :: mind.lines).map Line.message))) ∧
      Completes session loop rules.tail world (handler utterance) mind' requests told := by
  have noDepart := holds_heardLike_received sound state heard (eq_false_of_ne_true unmatched)
  have noDrive := holds_stateIs_received sound state
    (by simp : "asrReceived".toList ≠ "navigating".toList)
  rw [handler, if_neg unmatched]
  split_ifs with places look home
  · have met := holds_heardLike_received sound state heard places
    have among : [namePlaces, lookUp, goHome, consult] ⊆ rules := by simp [rules]
    have course := completes_at_rest settings among met (does_namePlaces sound canSpeak) rfl
      (.inr rfl)
    exact ⟨_, [], _, rfl, by simp, by simp, .skip noDepart (.skip noDrive course)⟩
  · have noPlaces := holds_heardLike_received sound state heard (eq_false_of_ne_true places)
    have met := holds_lookUp_received sound state heard look
    have among : [lookUp, goHome, consult] ⊆ rules := by simp [rules]
    have course := completes_at_rest settings among met (does_lookUp sound canSpeak) rfl (.inr rfl)
    exact ⟨_, [], _, rfl, by simp, by simp, .skip noDepart (.skip noDrive
      (.skip noPlaces course))⟩
  · have noPlaces := holds_heardLike_received sound state heard (eq_false_of_ne_true places)
    have noLookUp := holds_lookUp_received sound state heard (eq_false_of_ne_true look)
    have met := holds_heardLike_received sound state heard home
    have among : [goHome, consult] ⊆ rules := by simp [rules]
    have course := completes_at_rest settings among met (does_goingHome sound canSpeak) rfl
      (.inr rfl)
    exact ⟨_, [], _, rfl, by simp, by simp, .skip noDepart (.skip noDrive
      (.skip noPlaces (.skip noLookUp course)))⟩
  · have noPlaces := holds_heardLike_received sound state heard (eq_false_of_ne_true places)
    have noLookUp := holds_lookUp_received sound state heard (eq_false_of_ne_true look)
    have noHome := holds_heardLike_received sound state heard (eq_false_of_ne_true home)
    have met : consult.condition.holds World.host world = .ok true world :=
      holds_of_evaluate (evaluate_stateIs sound state _)
    rcases exists_does_consult sound canSpeak chat heard last with
      ⟨text, requests, does, one, messages⟩
    have among : [consult] ⊆ rules := by simp [rules]
    have course := completes_at_rest settings among met does rfl (.inr rfl)
    exact ⟨_, requests, _, rfl, one, messages, .skip noDepart (.skip noDrive
      (.skip noPlaces (.skip noLookUp (.skip noHome course))))⟩

end Received

end RobotRules.Session
