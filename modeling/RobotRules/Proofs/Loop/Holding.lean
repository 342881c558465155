import RobotRules.Proofs.Control.Handover
import RobotRules.Proofs.Loop.Interleaving

/-! What a loop holds: a text, the flag that it is pending, and rules. Of all that can
happen, few things make a difference to them, and each does so at one blow. -/

namespace RobotRules

/-- What a loop holds. -/
structure Loop.Holding where
  text : Text
  isPending : Bool
  rules : List Rule

def Loop.holding (loop : Loop) : Loop.Holding := ⟨loop.text, loop.isPending, loop.rules⟩

namespace Interleaving

open Control (Server Request Setting Route)
open Loop (Holding)

/-- What an event means to what a loop holds. -/
inductive Move where
  | keep
  /-- A text is handed over. -/
  | hand (text : Text)
  /-- The text is to be parsed once more. -/
  | ask
  | parse

namespace Move

def apply (holding : Holding) : Move → Holding
  | keep => holding
  | hand text => ⟨text, true, holding.rules⟩
  | ask => { holding with isPending := true }
  | parse => ⟨holding.text, false, (Rule.parseAll holding.text).1⟩

def ofText? : Option Text → Move
  | none => keep
  | some text => hand text

def text? : Move → Option Text
  | hand text => some text
  | _ => none

end Move

def move (machine : Machine) : Event → Move
  | .replace text => .hand text
  | .requestReload => .ask
  | .start => if machine.loop.phase = .idle then .parse else .keep
  | .beginTick => if machine.loop.isPending then .parse else .keep
  | .request route request setting =>
    .ofText? (machine.server.requested? request setting route)
  | .arrive locate address reply => .ofText? (Rule.fetched? locate address reply)
  | .stop | .takeRules | .visit _ | .endTick _ | .drain => .keep

/-! What the events do to the loop. -/

theorem holding_received (loop : Loop) (text? : Option Text) :
    (loop.received text?).holding = (Move.ofText? text?).apply loop.holding := by
  cases text? <;> rfl

theorem loop_launch (engine : Engine) :
    (launch engine).loop =
      if engine.loop.phase = .idle then engine.loop.begin.1 else engine.loop := by
  unfold launch
  split
  · simp only [Engine.recordAll, Engine.loop_seed]
  · rfl

theorem holding_look (rule : Rule) (tick : Tick) (engine : Engine) :
    (look rule tick engine).1.loop.holding = engine.loop.holding := by
  unfold look
  split <;> rfl

namespace Machine

variable (machine : Machine)

theorem loop_takeRules : machine.takeRules.loop = machine.loop := by
  unfold takeRules
  split <;> rfl

theorem holding_visit (index : Nat) :
    (machine.visit index).loop.holding = machine.loop.holding := by
  unfold visit
  split
  · rfl
  · split
    · rfl
    · exact holding_look ..

theorem holding_endTick (index : Nat) :
    (machine.endTick index).loop.holding = machine.loop.holding := by
  unfold endTick
  split
  · rfl
  · split <;> rfl

theorem loop_answer (route : Route) (request : Request) (setting : Setting) :
    (machine.answer route request setting).loop =
      machine.loop.received (machine.server.requested? request setting route) := by
  unfold answer
  split
  · rename_i answered
    exact Server.loop_follow answered
  · rename_i refused
    rw [Server.requested?_eq_none_of_follow refused]
    rfl

theorem loop_arrive (locate : Service.Locator) (address : Value) (reply : Reply) :
    (machine.arrive locate address reply).loop =
      machine.loop.received (Rule.fetched? locate address reply) := by
  unfold arrive
  split
  · rename_i reached
    exact Engine.loop_replaceFrom reached
  · rename_i failed
    rw [Engine.fetched?_eq_none_of_replaceFrom failed]
    rfl

end Machine

/-- An event does to what the loop holds what it means, and nothing else. -/
theorem holding_step (machine : Machine) (event : Event) :
    (step machine event).loop.holding = (move machine event).apply machine.loop.holding := by
  cases event with
  | replace text => rfl
  | requestReload => rfl
  | start =>
      have launched : (step machine .start).loop =
          if machine.loop.phase = .idle then machine.loop.begin.1 else machine.loop :=
        loop_launch machine.server.engine
      rw [launched, move]
      split <;> rfl
  | stop => rfl
  | beginTick =>
      have refreshed : (step machine .beginTick).loop = machine.loop.reload.1 := rfl
      rw [refreshed, move, Loop.reload]
      split <;> rfl
  | takeRules => exact congrArg Loop.holding machine.loop_takeRules
  | visit index => exact machine.holding_visit index
  | endTick index => exact machine.holding_endTick index
  | drain => rfl
  | request route request setting =>
      exact (congrArg Loop.holding (machine.loop_answer ..)).trans (holding_received ..)
  | arrive =>
      exact (congrArg Loop.holding (machine.loop_arrive ..)).trans (holding_received ..)

/-! The text that is held is the one handed over last. -/

/-- The texts that events hand over, one after the other. -/
def handedOver : Machine → List Event → List Text
  | _, [] => []
  | machine, event :: rest =>
    (move machine event).text?.toList ++ handedOver (step machine event) rest

theorem handedOver_append (machine : Machine) (events others : List Event) :
    handedOver machine (events ++ others) =
      handedOver machine events ++ handedOver (run machine events) others := by
  induction events generalizing machine with
  | nil => rfl
  | cons event rest induction =>
      simp only [List.cons_append, handedOver, induction, List.append_assoc]
      rfl

theorem text_apply (holding : Holding) (move : Move) :
    (move.apply holding).text = move.text?.getD holding.text := by
  cases move <;> rfl

theorem text_step (machine : Machine) (event : Event) :
    (step machine event).loop.text = (move machine event).text?.getD machine.loop.text :=
  (congrArg Holding.text (holding_step machine event)).trans (text_apply ..)

theorem text_run (machine : Machine) (events : List Event) :
    (run machine events).loop.text =
      (handedOver machine events).getLast?.getD machine.loop.text := by
  induction events generalizing machine with
  | nil => rfl
  | cons event rest induction =>
      have later := induction (step machine event)
      rw [text_step] at later
      refine later.trans ?_
      rw [handedOver, List.getLast?_append, Option.getD_or]
      cases (move machine event).text? <;> rfl

end Interleaving

end RobotRules
