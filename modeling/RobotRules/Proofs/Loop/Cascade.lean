import RobotRules.Proofs.Loop.Commutation
import RobotRules.Proofs.Session.Rules

/-! Rules that hand a parameter on from one value to the next. In the order of the values one
tick takes the parameter through all of them, since each rule sees what the rules before it
wrote. In the opposite order each tick takes it one value further, since no rule gets a second
turn in a tick. -/

namespace RobotRules

open Bundled (reading setting)
open World (host)

/-! The rules. -/

namespace Rule

/-- The rule that writes a value to a parameter which holds another one. -/
def onward (parameter before after : Text) : Rule :=
  ⟨.equals (reading parameter) (.literal before), [setting parameter (.literal after)]⟩

/-- The rules that hand a parameter on from each value to the next. -/
def cascade (parameter : Text) : List Text → List Rule
  | before :: after :: rest =>
    onward parameter before after :: cascade parameter (after :: rest)
  | _ => []

variable {parameter : Text}

theorem length_cascade (parameter : Text) (values : List Text) :
    (cascade parameter values).length = values.length - 1 := by
  fun_induction cascade parameter values with
  | case1 first next rest induction => simp [induction]
  | case2 values short =>
      match values with
      | [] | [_] => rfl
      | first :: next :: rest => exact absurd rfl (short first next rest)

/-- The rules up to a value and those that start from it. -/
theorem cascade_append (parameter : Text) (front : List Text) (value : Text)
    (back : List Text) : cascade parameter (front ++ value :: back) =
      cascade parameter (front ++ [value]) ++ cascade parameter (value :: back) := by
  induction front with
  | nil => rfl
  | cons first front induction =>
      cases front with
      | nil => rfl
      | cons next front => exact congrArg (onward parameter first next :: ·) induction

/-- A rule that waits for one of some values. -/
def WaitsFor (parameter : Text) (values : List Text) (rule : Rule) : Prop :=
  ∃ before ∈ values, ∃ after, rule = onward parameter before after

theorem waitsFor_of_mem_concat {rule : Rule} {front : List Text} {value : Text}
    (member : rule ∈ cascade parameter (front ++ [value])) :
    rule.WaitsFor parameter front := by
  induction front with
  | nil => cases member
  | cons first front induction =>
      have later : ∀ {after : Text}, rule = onward parameter first after ∨
          rule ∈ cascade parameter (front ++ [value]) →
          rule.WaitsFor parameter (first :: front) := by
        rintro after (same | member)
        · exact ⟨first, by simp, after, same⟩
        · rcases induction member with ⟨before, among, found⟩
          exact ⟨before, List.mem_cons_of_mem _ among, found⟩
      cases front with
      | nil => exact later (List.mem_cons.mp member)
      | cons next front => exact later (List.mem_cons.mp member)

theorem waitsFor_of_mem {rule : Rule} {values : List Text}
    (member : rule ∈ cascade parameter values) : rule.WaitsFor parameter values := by
  rcases List.eq_nil_or_concat values with rfl | ⟨front, value, rfl⟩
  · cases member
  · rw [List.concat_eq_append] at member ⊢
    rcases waitsFor_of_mem_concat member with ⟨before, among, found⟩
    exact ⟨before, List.mem_append_left _ among, found⟩

theorem holds_onward {held : Text} {world : World}
    (holds : world.memory.read (.text parameter) = .text held) (before after : Text) :
    (onward parameter before after).condition.holds host world =
      .ok (held == before) world := by
  have judged : (onward parameter before after).condition.evaluate host world =
      .ok (.boolean (held == before)) world := by
    have legible := Memory.legible_of_text holds
    rw [onward, Expr.evaluate, Act.bind_of_ok _ (Session.evaluate_reading legible), holds]
    rfl
  exact Expr.holds_of_evaluate judged

/-- A rule does not fire while it waits for other values. -/
theorem WaitsFor.not_holds {rule : Rule} {values : List Text} {held : Text} {world : World}
    (waits : rule.WaitsFor parameter values) (outside : held ∉ values)
    (holds : world.memory.read (.text parameter) = .text held) :
    rule.condition.holds host world = .ok false world := by
  rcases waits with ⟨before, member, after, rfl⟩
  have different : held ≠ before := fun same => outside (same ▸ member)
  rw [holds_onward holds, beq_false_of_ne different]

theorem runAll_onward (parameter before after : Text) (world : World) :
    Expr.runAll host (onward parameter before after).actions world =
      .ok () (world.writeAll [(parameter, .text after)]) := rfl

end Rule

namespace World

variable {parameter : Text}

/-- Writes values to one parameter, one after the other. -/
def handOn (parameter : Text) (values : List Text) (world : World) : World :=
  world.writeAll (values.map fun value => (parameter, .text value))

theorem handOn_cons (parameter first : Text) (rest : List Text) (world : World) :
    world.handOn parameter (first :: rest) =
      (world.handOn parameter [first]).handOn parameter rest :=
  writeAll_append [(parameter, .text first)] _ world

theorem read_handOn_single (parameter value : Text) (world : World) :
    (world.handOn parameter [value]).memory.read (.text parameter) = .text value := by
  rw [handOn, List.map_singleton, writeAll, Memory.writeAll, List.foldl_cons, List.foldl_nil,
    Memory.read_write_text, if_pos rfl]

/-- The parameter ends up with the last value. -/
theorem read_handOn {first : Text} {world : World}
    (holds : world.memory.read (.text parameter) = .text first) (rest : List Text) :
    (world.handOn parameter rest).memory.read (.text parameter) =
      .text ((first :: rest).getLast (List.cons_ne_nil first rest)) := by
  induction rest generalizing first world with
  | nil => exact holds
  | cons next rest induction =>
      rw [handOn_cons, List.getLast_cons_cons]
      exact induction (read_handOn_single parameter next world)

/-- The values come at the end of the history, in their order. -/
theorem entries_handOn (parameter : Text) (values : List Text) (world : World) :
    ((world.handOn parameter values).memory.entries (.text parameter)).map Entry.value =
      (world.memory.entries (.text parameter)).map Entry.value ++ values.map .text := by
  induction values generalizing world with
  | nil => exact (List.append_nil _).symm
  | cons value rest induction =>
      have first : ((world.handOn parameter [value]).memory.entries (.text parameter)).map
          Entry.value = (world.memory.entries (.text parameter)).map Entry.value ++
            [.text value] := by
        rw [handOn, List.map_singleton, writeAll, Memory.writeAll, List.foldl_cons,
          List.foldl_nil, Memory.entries_write_text, List.map_append, List.map_singleton]
      rw [handOn_cons, induction, first, List.append_assoc]
      rfl

end World

/-! One pass. -/

namespace Loop

variable {loop : Loop} {parameter value next : Text} {world : World}

/-- A rule finds the value that it waits for and hands the parameter on. -/
theorem Passes.fireOnward {rules fired : List Rule} {after : World}
    (inline : loop.foreground = .inline)
    (holds : world.memory.read (.text parameter) = .text value)
    (rest : Passes host loop rules (world.handOn parameter [next]) fired after) :
    Passes host loop (Rule.onward parameter value next :: rules) world
      (Rule.onward parameter value next :: fired) after := by
  have met : (Rule.onward parameter value next).condition.holds host world = .ok true world := by
    rw [Rule.holds_onward holds, BEq.rfl]
  have follows : follow (Rule.onward parameter value next) world =
      .ok () (world.handOn parameter [next]) :=
    (Act.bind_of_ok _ met).trans (Rule.runAll_onward parameter value next world)
  exact fireVisited met (visit_of_follow inline follows) rest

/-- In the order of the values all rules fire. -/
theorem passes_cascade (inline : loop.foreground = .inline) {first : Text} (rest : List Text)
    (holds : world.memory.read (.text parameter) = .text first) :
    Passes host loop (Rule.cascade parameter (first :: rest)) world
      (Rule.cascade parameter (first :: rest)) (world.handOn parameter rest) := by
  induction rest generalizing first world with
  | nil => exact .nil
  | cons next rest induction =>
      rw [World.handOn_cons]
      exact .fireOnward inline holds (induction (World.read_handOn_single parameter next world))

/-- In the opposite order one rule fires, unless the parameter has its last value. The rules in
front of it wait for later values, and those behind it for earlier ones than it writes. -/
theorem passes_cascade_reverse (inline : loop.foreground = .inline) {front back : List Text}
    (different : (front ++ value :: back).Nodup)
    (holds : world.memory.read (.text parameter) = .text value) :
    Passes host loop (Rule.cascade parameter (front ++ value :: back)).reverse world
      ((Rule.cascade parameter (front ++ value :: back))[front.length]?.toList)
      (world.handOn parameter back.head?.toList) := by
  have apart : value ∉ front ++ back := (List.nodup_middle.mp different).notMem
  cases back with
  | nil =>
      have none : (Rule.cascade parameter (front ++ [value]))[front.length]? = .none :=
        List.getElem?_eq_none (by simp [Rule.length_cascade])
      rw [none]
      exact .skipAll fun rule member =>
        (Rule.waitsFor_of_mem_concat (List.mem_reverse.mp member)).not_holds
          (fun earlier => apart (List.mem_append_left _ earlier)) holds
  | cons next back =>
      have cut : Rule.cascade parameter (front ++ value :: next :: back) =
          Rule.cascade parameter (front ++ [value]) ++ Rule.onward parameter value next ::
            Rule.cascade parameter (next :: back) := Rule.cascade_append parameter front value _
      have found : (Rule.cascade parameter (front ++ value :: next :: back))[front.length]? =
          some (Rule.onward parameter value next) := by
        have length : (Rule.cascade parameter (front ++ [value])).length = front.length := by
          simp [Rule.length_cascade]
        rw [cut, List.getElem?_append_right length.le, length, Nat.sub_self]
        rfl
      have apart' : next ∉ (front ++ [value]) ++ back := by
        rw [List.append_cons] at different
        exact (List.nodup_middle.mp different).notMem
      rw [found, cut, List.reverse_append, List.reverse_cons, List.append_assoc]
      refine .skipFront (fun rule member => ?_) (.fireOnward inline holds (.skipAll ?_))
      · exact (Rule.waitsFor_of_mem (List.mem_reverse.mp member)).not_holds
          (fun later => apart (List.mem_append_right _ later)) holds
      · exact fun rule member =>
          (Rule.waitsFor_of_mem_concat (List.mem_reverse.mp member)).not_holds
            (fun earlier => apart' (List.mem_append_left _ (List.mem_append_left _ earlier)))
            (World.read_handOn_single parameter next world)

end Loop

/-! Ticks. -/

namespace Engine

/-- Ticks one after the other, each at its time. -/
def ticksAt (times : List Int) (engine : Engine) : Engine :=
  times.foldl (fun engine now => (engine.undergo (.clock now)).tick) engine

theorem ticksAt_concat (times : List Int) (now : Int) (engine : Engine) :
    engine.ticksAt (times ++ [now]) = ((engine.ticksAt times).undergo (.clock now)).tick :=
  List.foldl_concat _ _ _ _

/-- An engine whose loop goes by some rules, and runs actions at once. -/
def IsRuledBy (rules : List Rule) (engine : Engine) : Prop := engine.ruledBy rules = engine

section Ruled

variable {engine : Engine} {rules : List Rule}

theorem IsRuledBy.undergo_clock (ruled : engine.IsRuledBy rules) (now : Int) :
    (engine.undergo (.clock now)).IsRuledBy rules := by
  rw [← ruled]
  rfl

theorem IsRuledBy.tick (ruled : engine.IsRuledBy rules) : engine.tick.IsRuledBy rules := by
  rw [← ruled]
  rfl

theorem IsRuledBy.inline (ruled : engine.IsRuledBy rules) : engine.loop.foreground = .inline := by
  rw [← ruled]
  rfl

theorem IsRuledBy.ticksAt (ruled : engine.IsRuledBy rules) (times : List Int) :
    (engine.ticksAt times).IsRuledBy rules := by
  induction times using List.reverseRecOn with
  | nil => exact ruled
  | append_singleton times now induction =>
      rw [ticksAt_concat]
      exact (induction.undergo_clock now).tick

/-- A tick whose pass comes to its end. -/
theorem IsRuledBy.tick_of_passes {fired : List Rule} {after : World}
    (ruled : engine.IsRuledBy rules)
    (passes : Loop.Passes host engine.loop rules engine.world fired after) :
    engine.firing = fired ∧ engine.tick.world = after := by
  constructor
  · have same : engine.loop.rules = rules := by
      rw [← ruled]
      rfl
    rw [firing, same, passes.fired]
  · rw [← ruled, world_tick_ruledBy, ← pass_ruledBy engine rules, ruled, passes.pass]
    rfl

end Ruled

section Cascade

variable {engine : Engine} {parameter : Text}

/-- One tick along the values. -/
theorem tick_cascade {first : Text} {rest : List Text}
    (ruled : engine.IsRuledBy (Rule.cascade parameter (first :: rest)))
    (holds : engine.world.memory.read (.text parameter) = .text first) :
    engine.firing = Rule.cascade parameter (first :: rest) ∧
      engine.tick.world = engine.world.handOn parameter rest :=
  ruled.tick_of_passes (Loop.passes_cascade ruled.inline rest holds)

/-- One tick against the order of the values. -/
theorem tick_cascade_reverse {front back : List Text} {value : Text}
    (ruled : engine.IsRuledBy (Rule.cascade parameter (front ++ value :: back)).reverse)
    (different : (front ++ value :: back).Nodup)
    (holds : engine.world.memory.read (.text parameter) = .text value) :
    engine.firing = (Rule.cascade parameter (front ++ value :: back))[front.length]?.toList ∧
      engine.tick.world = engine.world.handOn parameter back.head?.toList :=
  ruled.tick_of_passes (Loop.passes_cascade_reverse ruled.inline different holds)

/-- How far the parameter has come when it holds a value: it had some values before, and is to
have others. -/
structure HasCome (parameter : Text) (values : List Text) (count : Nat) (engine : Engine)
    (front : List Text) (value : Text) (back : List Text) : Prop where
  whole : values = front ++ value :: back
  count : front.length = min count (values.length - 1)
  holds : engine.world.memory.read (.text parameter) = .text value

namespace HasCome

variable {values front back rest : List Text} {count : Nat} {first value : Text}

theorem undergo_clock (come : HasCome parameter values count engine front value back)
    (now : Int) :
    HasCome parameter values count (engine.undergo (.clock now)) front value back :=
  ⟨come.whole, come.count, come.holds⟩

/-- The value that follows. -/
theorem head?_eq (come : HasCome parameter (first :: rest) count engine front value back) :
    back.head? = rest[front.length]? := by
  have behind : (first :: rest)[front.length + 1]? = back[0]? := by
    rw [come.whole, List.getElem?_append_right (Nat.le_add_right _ 1), Nat.add_sub_cancel_left]
    rfl
  rw [List.head?_eq_getElem?, ← behind, List.getElem?_cons_succ]

theorem tick (come : HasCome parameter values count engine front value back)
    (ruled : engine.IsRuledBy (Rule.cascade parameter values).reverse)
    (different : values.Nodup) :
    engine.firing = (Rule.cascade parameter values)[front.length]?.toList ∧
      engine.tick.world = engine.world.handOn parameter back.head?.toList := by
  rcases come with ⟨rfl, _, holds⟩
  exact tick_cascade_reverse ruled different holds

end HasCome

/-- After some ticks against the order of the values the parameter has come as many values
further, if there are so many. -/
theorem exists_hasCome {values : List Text} {first : Text} {rest : List Text}
    (whole : values = first :: rest) (different : values.Nodup)
    (ruled : engine.IsRuledBy (Rule.cascade parameter values).reverse)
    (holds : engine.world.memory.read (.text parameter) = .text first) (times : List Int) :
    ∃ front value back,
      HasCome parameter values times.length (engine.ticksAt times) front value back := by
  induction times using List.reverseRecOn with
  | nil => exact ⟨[], first, rest, whole, by simp, holds⟩
  | append_singleton times now induction =>
      rcases induction with ⟨front, value, back, rfl, count, holds⟩
      have ticked := tick_cascade_reverse ((ruled.ticksAt times).undergo_clock now) different holds
      rw [ticksAt_concat]
      cases back with
      | nil =>
          refine ⟨front, value, [], rfl, ?_, ?_⟩
          · simp at count ⊢
            omega
          · rw [ticked.2]
            exact holds
      | cons next back =>
          refine ⟨front ++ [value], next, back, by simp, ?_, ?_⟩
          · simp at count ⊢
            omega
          · rw [ticked.2]
            exact World.read_handOn_single parameter next _

/-- Rules that hand a parameter on through different values. If they stand in the order of the
values, all of them fire in one tick, each once, and the parameter goes through the values up to
the last. If they stand in the opposite order, each tick fires one of them and takes the parameter
to the next value, and once it has the last value no rule fires any more. -/
theorem cascade_fires (engine : Engine) {parameter first : Text} {rest : List Text}
    (different : (first :: rest).Nodup)
    (holds : engine.world.memory.read (.text parameter) = .text first) :
    let rules := Rule.cascade parameter (first :: rest)
    let along := engine.ruledBy rules
    let against := engine.ruledBy rules.reverse
    (along.firing = rules ∧ along.tick.world = engine.world.handOn parameter rest ∧
      along.tick.world.memory.read (.text parameter) =
        .text ((first :: rest).getLast (List.cons_ne_nil first rest)) ∧
      (along.tick.world.memory.entries (.text parameter)).map Entry.value =
        (engine.world.memory.entries (.text parameter)).map Entry.value ++ rest.map .text) ∧
    ∀ times now,
      let before := (against.ticksAt times).undergo (.clock now)
      (∀ value, rest[times.length]? = some value →
        (∃ rule, rules[times.length]? = some rule ∧ before.firing = [rule]) ∧
          before.tick.world = before.world.handOn parameter [value] ∧
          before.tick.world.memory.read (.text parameter) = .text value) ∧
      (rest.length ≤ times.length → before.firing = [] ∧ before.tick.world = before.world) := by
  intro rules along against
  refine ⟨?_, fun times now => ?_⟩
  · have ruled : along.IsRuledBy rules := rfl
    have ticked := tick_cascade ruled holds
    refine ⟨ticked.1, ticked.2, ?_, ?_⟩
    · rw [ticked.2]
      exact World.read_handOn holds rest
    · rw [ticked.2]
      exact World.entries_handOn parameter rest engine.world
  · intro before
    have ruled : against.IsRuledBy rules.reverse := rfl
    rcases exists_hasCome rfl different ruled holds times with ⟨front, value, back, come⟩
    have ticked : before.firing = rules[front.length]?.toList ∧
        before.tick.world = before.world.handOn parameter rest[front.length]?.toList := by
      rw [← come.head?_eq]
      exact (come.undergo_clock now).tick ((ruled.ticksAt times).undergo_clock now) different
    have position : front.length = min times.length rest.length := come.count
    have count : rules.length = rest.length := Rule.length_cascade parameter (first :: rest)
    refine ⟨fun value found => ?_, fun through => ?_⟩
    · have inside : times.length < rest.length := (List.getElem?_eq_some_iff.mp found).1
      rw [position, min_eq_left inside.le, found] at ticked
      have rule : rules[times.length]? = some rules[times.length] :=
        List.getElem?_eq_getElem (count ▸ inside)
      refine ⟨⟨_, rule, by rw [ticked.1, rule]; rfl⟩, ticked.2, ?_⟩
      rw [ticked.2]
      exact World.read_handOn_single parameter value _
    · rw [position, min_eq_right through, List.getElem?_eq_none le_rfl,
        List.getElem?_eq_none count.le] at ticked
      exact ticked

end Cascade

section Light

/-- A traffic light that shows red. -/
def light : Engine :=
  ⟨(World.fresh {} (Robot.idle [] [] false) []).writeAll [("light", .text "red")],
    Loop.idle {} .inline []⟩

theorem cascade_fires_light : ["red".toList, "amber".toList, "green".toList].Nodup ∧
    light.world.memory.read (.text "light") = .text "red" ∧
    let rules := Rule.cascade "light" ["red", "amber", "green"]
    let along := light.ruledBy rules
    let against := light.ruledBy rules.reverse
    along.firing = rules ∧ along.tick.world.memory.read (.text "light") = .text "green" ∧
      (along.tick.world.memory.entries (.text "light")).map Entry.value =
        [.text "red", .text "amber", .text "green"] ∧
      ((against.ticksAt [20]).undergo (.clock 40)).tick.world.memory.read (.text "light") =
        .text "green" ∧
      ((against.ticksAt [20, 40]).undergo (.clock 30)).firing = [] := by
  have different : ["red".toList, "amber".toList, "green".toList].Nodup := by decide
  have holds : light.world.memory.read (.text "light") = .text "red" := rfl
  have fires := cascade_fires light different holds
  exact ⟨different, holds, fires.1.1, fires.1.2.2.1, fires.1.2.2.2,
    ((fires.2 [20] 40).1 "green" rfl).2.2, ((fires.2 [20, 40] 30).2 (by decide)).1⟩

end Light

end Engine

end RobotRules
