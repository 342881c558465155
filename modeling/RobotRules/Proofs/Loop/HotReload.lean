import RobotRules.Proofs.Loop.Holding

/-! Hot reload. Whatever happens to a server and in whatever order, the text that its
loop holds, the flag that the text is pending and the rules in force belong together. -/

namespace RobotRules.Interleaving

open Control (Server Request Setting Route)
open Loop (Holding)

/-! The rules in force are those of the held text, unless that is still to be parsed. -/

def IsParsed (holding : Holding) : Prop :=
  holding.isPending = false → holding.rules = (Rule.parseAll holding.text).1

theorem isParsed_apply {holding : Holding} (parsed : IsParsed holding) (move : Move) :
    IsParsed (move.apply holding) := by
  cases move with
  | keep => exact parsed
  | hand text => simp [IsParsed, Move.apply]
  | ask => simp [IsParsed, Move.apply]
  | parse => simp [IsParsed, Move.apply]

theorem isParsed_run {machine : Machine} (parsed : IsParsed machine.loop.holding)
    (events : List Event) : IsParsed (run machine events).loop.holding := by
  induction events generalizing machine with
  | nil => exact parsed
  | cons event rest induction =>
      apply induction
      rw [holding_step]
      exact isParsed_apply parsed _

/-! The rules change only where the held text is parsed, and then as a whole. -/

theorem rules_step_of_parse {machine : Machine} {event : Event}
    (parses : move machine event = .parse) :
    (step machine event).loop.rules = (Rule.parseAll machine.loop.text).1 := by
  have rules := congrArg Holding.rules (holding_step machine event)
  rw [parses] at rules
  exact rules

theorem rules_step_of_ne {machine : Machine} {event : Event}
    (keeps : move machine event ≠ .parse) :
    (step machine event).loop.rules = machine.loop.rules := by
  refine (congrArg Holding.rules (holding_step machine event)).trans ?_
  cases meaning : move machine event with
  | parse => exact absurd meaning keeps
  | _ => rfl

theorem isPending_step_of_ne {machine : Machine} {event : Event}
    (pending : machine.loop.isPending = true) (keeps : move machine event ≠ .parse) :
    (step machine event).loop.isPending = true := by
  refine (congrArg Holding.isPending (holding_step machine event)).trans ?_
  cases meaning : move machine event with
  | keep => exact pending
  | hand text => rfl
  | ask => rfl
  | parse => exact absurd meaning keeps

theorem Move.ofText?_ne_parse (text? : Option Text) : ofText? text? ≠ parse := by
  cases text? <;> simp [ofText?]

theorem eq_start_or_eq_beginTick_of_move {machine : Machine} {event : Event}
    (parses : move machine event = .parse) : event = .start ∨ event = .beginTick := by
  cases event with
  | start => exact .inl rfl
  | beginTick => exact .inr rfl
  | request => exact absurd parses (Move.ofText?_ne_parse _)
  | arrive => exact absurd parses (Move.ofText?_ne_parse _)
  | _ => cases parses

theorem rules_step {machine : Machine} {event : Event}
    (changed : (step machine event).loop.rules ≠ machine.loop.rules) :
    (event = .start ∨ event = .beginTick) ∧
      (step machine event).loop.rules = (Rule.parseAll machine.loop.text).1 := by
  by_cases parses : move machine event = .parse
  · exact ⟨eq_start_or_eq_beginTick_of_move parses, rules_step_of_parse parses⟩
  · exact absurd (rules_step_of_ne parses) changed

theorem rules_start {machine : Machine} (idle : machine.loop.phase = .idle) :
    (step machine .start).loop.rules = (Rule.parseAll machine.loop.text).1 :=
  rules_step_of_parse (if_pos idle)

theorem rules_beginTick {machine : Machine} (parsed : IsParsed machine.loop.holding) :
    (step machine .beginTick).loop.rules = (Rule.parseAll machine.loop.text).1 := by
  by_cases pending : machine.loop.isPending
  · exact rules_step_of_parse (if_pos pending)
  · have keeps : move machine .beginTick = .keep := if_neg pending
    rw [rules_step_of_ne (by simp [keeps])]
    exact parsed (Bool.eq_false_iff.mpr pending)

/-- Between two texts the rules stay those of the text that is held. -/
theorem rules_run_of_eq {machine : Machine} {events : List Event}
    (current : machine.loop.rules = (Rule.parseAll machine.loop.text).1)
    (nothing : handedOver machine events = []) :
    (run machine events).loop.rules = (Rule.parseAll machine.loop.text).1 := by
  induction events generalizing machine with
  | nil => exact current
  | cons event rest induction =>
      rcases List.append_eq_nil_iff.mp nothing with ⟨first, others⟩
      have text : (step machine event).loop.text = machine.loop.text := by
        rw [text_step, Option.toList_eq_nil_iff.mp first]
        rfl
      have rules : (step machine event).loop.rules = (Rule.parseAll machine.loop.text).1 := by
        by_cases same : (step machine event).loop.rules = machine.loop.rules
        · exact same.trans current
        · exact (rules_step same).2
      rw [← text] at rules ⊢
      exact induction rules others

/-- Once a tick has begun the rules are those of the text, if no other text came. -/
theorem rules_run_of_beginTick {machine : Machine} {before after : List Event}
    (parsed : IsParsed machine.loop.holding)
    (nothing : handedOver machine (before ++ .beginTick :: after) = []) :
    (run machine (before ++ .beginTick :: after)).loop.rules =
      (Rule.parseAll machine.loop.text).1 := by
  rw [handedOver_append] at nothing
  rcases List.append_eq_nil_iff.mp nothing with ⟨nothingBefore, nothingThen⟩
  rcases List.append_eq_nil_iff.mp nothingThen with ⟨nothingAtOnce, nothingAfter⟩
  have text : (run machine before).loop.text = machine.loop.text := by
    rw [text_run, nothingBefore]
    rfl
  have textThen : (step (run machine before) .beginTick).loop.text = machine.loop.text := by
    rw [text_step, Option.toList_eq_nil_iff.mp nothingAtOnce]
    exact text
  have current := rules_beginTick (isParsed_run parsed before)
  rw [text, ← textThen] at current
  rw [run_append, ← textThen]
  exact rules_run_of_eq current nothingAfter

/-! A tick looks at the rules of one text, whatever is handed over meanwhile. -/

/-- The rules that the ticks took. -/
def Machine.taken (machine : Machine) : List (List Rule) := machine.ticks.map Tick.rules

theorem rules_look (rule : Rule) (tick : Tick) (engine : Engine) :
    (look rule tick engine).2.rules = tick.rules := by
  unfold look
  split <;> rfl

/-- A tick that goes on keeps its rules. -/
theorem map_rules_set {ticks : List Tick} {index : Nat} {tick next : Tick}
    (found : ticks[index]? = some tick) (same : next.rules = tick.rules) :
    (ticks.set index next).map Tick.rules = ticks.map Tick.rules := by
  have current : (ticks.map Tick.rules)[index]? = some tick.rules := by
    simp [found]
  rcases List.getElem?_eq_some_iff.mp current with ⟨within, atIndex⟩
  rw [List.map_set, same, ← atIndex, List.set_getElem_self]

namespace Machine

variable (machine : Machine)

theorem taken_visit (index : Nat) : (machine.visit index).taken = machine.taken := by
  unfold visit
  split
  · rfl
  · rename_i found
    split
    · rfl
    · exact map_rules_set found (rules_look ..)

theorem taken_endTick (index : Nat) : (machine.endTick index).taken = machine.taken := by
  unfold endTick
  split
  · rfl
  · rename_i found
    split
    · exact map_rules_set found rfl
    · rfl

theorem taken_takeRules :
    machine.takeRules.taken = machine.taken ∨
      0 < machine.begun ∧ machine.takeRules.taken = machine.taken ++ [machine.loop.rules] := by
  unfold takeRules
  split
  · exact .inl rfl
  · rename_i begun
    refine .inr ⟨by omega, ?_⟩
    exact List.map_append

theorem taken_answer (route : Route) (request : Request) (setting : Setting) :
    (machine.answer route request setting).taken = machine.taken := by
  unfold answer
  split <;> rfl

theorem taken_arrive (locate : Service.Locator) (address : Value) (reply : Reply) :
    (machine.arrive locate address reply).taken = machine.taken := by
  unfold arrive
  split <;> rfl

end Machine

/-- A tick that has begun takes the rules in force at once, and no tick ever has others
than it took. -/
theorem taken_step (machine : Machine) (event : Event) :
    (step machine event).taken = machine.taken ∨
      0 < machine.begun ∧ (step machine event).taken = machine.taken ++ [machine.loop.rules] := by
  cases event with
  | takeRules => exact machine.taken_takeRules
  | visit index => exact .inl (machine.taken_visit index)
  | endTick index => exact .inl (machine.taken_endTick index)
  | request route request setting => exact .inl (machine.taken_answer ..)
  | arrive => exact .inl (machine.taken_arrive ..)
  | _ => exact .inl rfl

theorem taken_prefix_run (machine : Machine) (events : List Event) :
    machine.taken <+: (run machine events).taken := by
  induction events generalizing machine with
  | nil => exact List.prefix_refl _
  | cons event rest induction =>
      have first : machine.taken <+: (step machine event).taken := by
        rcases taken_step machine event with same | ⟨_, more⟩
        · exact same ▸ List.prefix_refl _
        · exact more ▸ List.prefix_append ..
      exact first.trans (induction _)

/-! A text that arrives between two rules of a tick. -/
example (world : World) (settings : LoopConfig) (source : Option Value) :
    let initial : Text := "[\"a\" --> \"b\"] [\"c\" --> \"d\"]"
    let machine := Machine.idle world settings .own initial true source
    let events := [.beginTick, .takeRules, .visit 0, .replace "[\"e\" --> \"f\"]", .beginTick,
      .takeRules, .visit 0, .endTick 0]
    (run machine events).ticks.map (fun tick => (tick.rules.length, tick.seen)) =
      [(2, 2), (1, 0)] := rfl

/-- Only the beginning of a tick makes another tick begin. -/
theorem begun_step_le {machine : Machine} {event : Event} (other : event ≠ .beginTick) :
    (step machine event).begun ≤ machine.begun := by
  cases event with
  | beginTick => exact absurd rfl other
  | takeRules =>
      show machine.takeRules.begun ≤ _
      unfold Machine.takeRules
      split <;> simp_all
  | visit index =>
      show (machine.visit index).begun ≤ _
      unfold Machine.visit
      split
      · exact Nat.le_refl _
      · split <;> exact Nat.le_refl _
  | endTick index =>
      show (machine.endTick index).begun ≤ _
      unfold Machine.endTick
      split
      · exact Nat.le_refl _
      · split <;> exact Nat.le_refl _
  | request route request setting =>
      show (machine.answer route request setting).begun ≤ _
      unfold Machine.answer
      split <;> exact Nat.le_refl _
  | arrive locate address reply =>
      show (machine.arrive locate address reply).begun ≤ _
      unfold Machine.arrive
      split <;> exact Nat.le_refl _
  | _ => exact Nat.le_refl _

/-- Whether rules are those of one of some texts, as a whole. -/
def AreOfOne (texts : List Text) (rules : List Rule) : Prop :=
  ∃ text ∈ texts, rules = (Rule.parseAll text).1

theorem AreOfOne.append {texts : List Text} {rules : List Rule} (one : AreOfOne texts rules)
    (others : List Text) : AreOfOne (texts ++ others) rules := by
  rcases one with ⟨text, member, equal⟩
  exact ⟨text, List.mem_append_left _ member, equal⟩

/-- Where the rules in force and the rules of the ticks come from. No tick has begun
before any text was parsed. -/
structure Traced (texts : List Text) (machine : Machine) : Prop where
  text : machine.loop.text ∈ texts
  rules : AreOfOne texts machine.loop.rules ∨
    machine.loop.isPending = true ∧ machine.begun = 0
  taken : ∀ rules ∈ machine.taken, AreOfOne texts rules

theorem Traced.step {texts : List Text} {machine : Machine} (traced : Traced texts machine)
    (event : Event) :
    Traced (texts ++ (move machine event).text?.toList)
      (Interleaving.step machine event) := by
  refine ⟨?_, ?_, ?_⟩
  · rw [text_step]
    cases (move machine event).text? with
    | none => simpa using traced.text
    | some text => simp
  · by_cases parses : move machine event = .parse
    · exact .inl ⟨_, List.mem_append_left _ traced.text, rules_step_of_parse parses⟩
    · rw [rules_step_of_ne parses]
      rcases traced.rules with one | ⟨pending, none⟩
      · exact .inl (one.append _)
      · -- A tick that began now would have parsed the pending text.
        have other : event ≠ .beginTick := by
          intro begins
          subst event
          exact parses (if_pos pending)
        have le : (Interleaving.step machine event).begun ≤ machine.begun :=
          begun_step_le other
        exact .inr ⟨isPending_step_of_ne pending parses, by omega⟩
  · intro rules member
    rcases taken_step machine event with same | ⟨begun, more⟩
    · exact (traced.taken rules (same ▸ member)).append _
    · rcases List.mem_append.mp (more ▸ member) with earlier | last
      · exact (traced.taken rules earlier).append _
      · rw [List.mem_singleton.mp last]
        rcases traced.rules with one | ⟨_, none⟩
        · exact one.append _
        · omega

theorem Traced.run {texts : List Text} {machine : Machine} (traced : Traced texts machine)
    (events : List Event) :
    Traced (texts ++ handedOver machine events) (Interleaving.run machine events) := by
  induction events generalizing texts machine with
  | nil =>
      rw [handedOver, List.append_nil]
      exact traced
  | cons event rest induction =>
      rw [handedOver, ← List.append_assoc]
      exact induction (traced.step event)

/-! A reload that fails. -/

/-- Whether a reload fails: there is no response, or not a success, or something else
is wrong. -/
inductive FailedReload (locate : Service.Locator) (address : Value) : Reply → Prop where
  | unreachable (reason : Text) : FailedReload locate address (.unreachable reason)
  | status {status : Int} (body : Text) (other : status ≠ 200) :
      FailedReload locate address (.response status body)
  | failure {reply : Reply} {failure : Failure}
      (failed : Rule.fetch locate address reply = .error failure) :
      FailedReload locate address reply

theorem FailedReload.fetched?_eq_none {locate : Service.Locator} {address : Value}
    {reply : Reply} (failed : FailedReload locate address reply) :
    Rule.fetched? locate address reply = none := by
  cases outcome : Rule.fetch locate address reply with
  | error failure => rw [Rule.fetched?, outcome]; rfl
  | ok text =>
      have success := Rule.eq_response_of_fetch outcome
      cases failed with
      | unreachable => cases success
      | status body other => exact absurd (Reply.response.inj success).1 other
      | failure failed => cases outcome.symm.trans failed

theorem loop_arrive_of_failed {locate : Service.Locator} {address : Value} {reply : Reply}
    (machine : Machine) (failed : FailedReload locate address reply) :
    (step machine (.arrive locate address reply)).loop = machine.loop := by
  refine (machine.loop_arrive locate address reply).trans ?_
  rw [failed.fetched?_eq_none]
  rfl

theorem loop_reloadRules_of_failed {machine : Machine} {setting : Setting}
    (request : Request)
    (failed : ∀ address, machine.server.source = some address →
      FailedReload setting.locate address setting.reply) :
    (step machine (.request .reloadRules request setting)).loop = machine.loop := by
  have nothing : machine.server.requested? request setting .reloadRules = none := by
    unfold Server.requested?
    dsimp only
    split
    · rename_i source
      rw [(failed _ source).fetched?_eq_none, ite_self]
    · rfl
  refine (machine.loop_answer .reloadRules request setting).trans ?_
  rw [nothing]
  rfl

/-! The number of rules that a new text is said to have. -/

theorem rules_run_of_told {machine : Machine} {request : Request} {setting : Setting}
    {outcome : Control.Outcome} {count : Int}
    (answered : machine.server.follow request setting .replaceRules = .ok outcome)
    (told : outcome.1.member? "parsed_rules" = some (.integer count))
    (parsed : IsParsed machine.loop.holding) {before after : List Event}
    (nothing : handedOver (step machine (.request .replaceRules request setting))
      (before ++ .beginTick :: after) = []) :
    ((run machine (.request .replaceRules request setting ::
      (before ++ .beginTick :: after))).loop.rules.length : Int) = count := by
  rcases Server.exists_requested?_of_parsed_rules answered told with ⟨text, requested, counted⟩
  have held : (step machine (.request .replaceRules request setting)).loop.text = text := by
    rw [text_step, move, requested]
    rfl
  have current : IsParsed (step machine (.request .replaceRules request setting)).loop.holding :=
    isParsed_run parsed [.request .replaceRules request setting]
  have rules := rules_run_of_beginTick current nothing
  rw [held] at rules
  rw [counted, ← rules]
  rfl

/-- How the text, the flag and the rules of a loop belong together after some texts were
handed over. -/
structure Consistent (initial : Text) (handed : List Text) (machine : Machine) : Prop where
  /-- The rules in force are all rules of the held text, unless that is pending. -/
  parsed : machine.loop.isPending = false →
    machine.loop.rules = (Rule.parseAll machine.loop.text).1
  /-- The text that is held was handed over last. -/
  latest : machine.loop.text = handed.getLast?.getD initial
  /-- A reload that fails changes nothing, whether its reply comes by itself -/
  failedReply : ∀ locate address reply, FailedReload locate address reply →
    (step machine (.arrive locate address reply)).loop = machine.loop
  /-- or while a request is answered. -/
  failedRequest : ∀ request setting,
    (∀ address, machine.server.source = some address →
      FailedReload setting.locate address setting.reply) →
    (step machine (.request .reloadRules request setting)).loop = machine.loop
  /-- The rules only change at a start or where a tick begins, and then to all rules of
  the held text. -/
  change : ∀ event, (step machine event).loop.rules ≠ machine.loop.rules →
    (event = .start ∨ event = .beginTick) ∧
      (step machine event).loop.rules = (Rule.parseAll machine.loop.text).1
  starts : machine.loop.phase = .idle →
    (step machine .start).loop.rules = (Rule.parseAll machine.loop.text).1
  begins : (step machine .beginTick).loop.rules = (Rule.parseAll machine.loop.text).1
  /-- Each tick has the rules of one text, -/
  version : ∀ tick ∈ machine.ticks, ∃ text ∈ initial :: handed,
    tick.rules = (Rule.parseAll text).1
  /-- and keeps them whatever happens. -/
  lasting : ∀ events,
    machine.ticks.map Tick.rules <+: (run machine events).ticks.map Tick.rules
  /-- The number of rules that a new text is said to have is the number of rules once a
  tick has begun, if no other text came. -/
  told : ∀ request setting outcome count,
    machine.server.follow request setting .replaceRules = .ok outcome →
    outcome.1.member? "parsed_rules" = some (.integer count) →
    ∀ before after,
      handedOver (step machine (.request .replaceRules request setting))
        (before ++ .beginTick :: after) = [] →
      ((run machine (.request .replaceRules request setting ::
        (before ++ .beginTick :: after))).loop.rules.length : Int) = count

/-- Text, flag and rules belong together after whatever happened to an idle loop. -/
theorem consistent_run (world : World) (settings : LoopConfig) (foreground : Foreground)
    (text : Text) (isUp : Bool) (source : Option Value) (events : List Event) :
    let machine := Machine.idle world settings foreground text isUp source
    Consistent text (handedOver machine events) (run machine events) := by
  intro machine
  have idle : IsParsed machine.loop.holding := by
    intro settled
    cases settled
  have parsed : IsParsed (run machine events).loop.holding := isParsed_run idle events
  have fresh : Traced [text] machine := by
    refine ⟨List.mem_singleton_self _, .inr ⟨rfl, rfl⟩, ?_⟩
    intro rules member
    cases member
  have traced := fresh.run events
  exact {
    parsed := parsed
    latest := text_run machine events
    failedReply := fun _ _ _ => loop_arrive_of_failed _
    failedRequest := fun request _ => loop_reloadRules_of_failed request
    change := fun _ => rules_step
    starts := rules_start
    begins := rules_beginTick parsed
    version := fun tick member => traced.taken _ (List.mem_map_of_mem member)
    lasting := taken_prefix_run _
    told := fun _ _ _ _ answered told _ _ => rules_run_of_told answered told parsed }

end RobotRules.Interleaving
