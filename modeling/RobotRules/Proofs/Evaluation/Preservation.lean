import RobotRules.Proofs.Evaluation.Traced

/-! What evaluation preserves. If no operation breaks an invariant, no expression breaks it
either, whether it gives a value or fails. Where an invariant depends on what is called, it
holds as long as the calls are of the kind that is allowed; the calls are those of the
traced host. -/

namespace RobotRules

namespace Act

variable {σ α β : Type} {kept : σ → Prop}

/-- The state that an action reaches, with a result or with a failure. -/
def reached : EStateM.Result Failure σ α → σ
  | .ok _ state | .error _ state => state

/-- What holds of the state that a first action reaches holds of the one behind both actions, as
long as the second, which only follows a result, does not break it. -/
theorem reached_bind (holds : σ → Prop) {first : Act σ α} {next : α → Act σ β} {state : σ}
    (one : holds (reached (first state)))
    (two : ∀ {value between}, first state = .ok value between → holds between →
      holds (reached (next value between))) : holds (reached ((first >>= next) state)) := by
  cases done : first state with
  | ok value between =>
      rw [done] at one
      rw [bind_of_ok next done]
      exact two done one
  | error failure between =>
      rw [done] at one
      rwa [bind_of_error next done]

/-- Where an action starts from a state in which something holds, it holds in the state that
the action reaches. -/
def Keeps (kept : σ → Prop) (action : Act σ α) : Prop :=
  ∀ state, kept state → kept (reached (action state))

theorem keeps_pure (value : α) : Keeps kept (pure value : Act σ α) := fun _ holds => holds

theorem keeps_throw (failure : Failure) : Keeps kept (throw failure : Act σ α) :=
  fun _ holds => holds

theorem keeps_give (outcome : Except Failure α) : Keeps kept (give outcome : Act σ α) := by
  cases outcome with
  | ok value => exact keeps_pure value
  | error failure => exact keeps_throw failure

theorem Keeps.bind {first : Act σ α} {next : α → Act σ β} (one : Keeps kept first)
    (two : ∀ value, Keeps kept (next value)) : Keeps kept (first >>= next) :=
  fun state holds => reached_bind kept (one state holds) fun _ between => two _ _ between

end Act

open Act (Keeps keeps_pure keeps_throw reached)

namespace Host

variable {σ : Type}

/-- Neither the operations of a host, which are handed nothing but values that can be written,
nor its log break an invariant. -/
structure Preserves (host : Host σ) (kept : σ → Prop) : Prop where
  operation : ∀ {receiver method : Text} {state : σ} {operation : List Value → Act σ Value},
    kept state → host.resolve receiver method state = .ok operation →
      ∀ arguments, (∀ value ∈ arguments, value.isWritable = true) →
        Keeps kept (operation arguments)
  record : ∀ (entry : LogEntry) {state : σ}, kept state → kept (host.record entry state)

/-- The operations of a host do not break an invariant of the calls so far and the state as
long as the calls are allowed ones. The shape of the state is never broken; it tells what
names stand for. -/
structure PreservesWhile (host : Host σ) (allowed : Dispatch → Prop) (shape : σ → Prop)
    (kept : List Dispatch → σ → Prop) : Prop where
  keepsShape : host.Preserves shape
  operation : ∀ {receiver method : Text} {state : σ} {operation : List Value → Act σ Value},
    shape state → host.resolve receiver method state = .ok operation →
      ∀ arguments, allowed ⟨receiver, method, arguments⟩ →
        ∀ calls state, shape state → kept calls state →
          kept (calls ++ [⟨receiver, method, arguments⟩]) (reached (operation arguments state))
  record : ∀ (entry : LogEntry) {calls : List Dispatch} {state : σ}, kept calls state →
    kept calls (host.record entry state)

/-- The invariant holds unless a call was made that is not allowed. -/
def Guarded (allowed : Dispatch → Prop) (shape : σ → Prop) (kept : List Dispatch → σ → Prop)
    (state : σ × List Dispatch) : Prop :=
  shape state.1 ∧ ((∀ call ∈ state.2, allowed call) → kept state.2 state.1)

theorem reached_noting (receiver method : Text) (operation : List Value → Act σ Value)
    (arguments : List Value) (state : σ) (calls : List Dispatch) :
    reached (noting receiver method operation arguments (state, calls)) =
      (reached (operation arguments state), calls ++ [⟨receiver, method, arguments⟩]) := by
  unfold noting
  dsimp only
  cases operation arguments state <;> rfl

theorem PreservesWhile.traced {host : Host σ} {allowed : Dispatch → Prop} {shape : σ → Prop}
    {kept : List Dispatch → σ → Prop} (preserves : host.PreservesWhile allowed shape kept) :
    host.traced.Preserves (Guarded allowed shape kept) where
  record entry _ holds :=
    ⟨preserves.keepsShape.record entry holds.1, fun all => preserves.record entry (holds.2 all)⟩
  operation := by
    intro receiver method state operation holds resolved arguments written next nextHolds
    obtain ⟨plain, found, rfl⟩ := resolve_traced_eq_ok_iff.mp resolved
    rw [reached_noting receiver method plain arguments next.1 next.2]
    refine ⟨preserves.keepsShape.operation holds.1 found arguments written _ nextHolds.1,
      fun all => ?_⟩
    have before : ∀ call ∈ next.2, allowed call := fun call member =>
      all call (List.mem_append_left _ member)
    exact preserves.operation holds.1 found arguments
      (all _ (List.mem_append_right _ (List.mem_singleton_self _))) next.2 next.1
      nextHolds.1 (nextHolds.2 before)

/-- What is reached without the list of calls. -/
theorem reached_dropCalls {α : Type}
    (result : EStateM.Result Failure (σ × List Dispatch) α) :
    reached (dropCalls result) = (reached result).1 := by
  cases result <;> rfl

/-- Tracing reaches the same state. -/
theorem Follows.reached_eq {α : Type} {tracing : Act (σ × List Dispatch) α} {plain : Act σ α}
    (follows : Follows tracing plain) (state : σ × List Dispatch) :
    reached (plain state.1) = (reached (tracing state)).1 := by
  rw [← follows state.1 state.2, reached_dropCalls]

end Host

namespace Expr

variable {σ : Type} {host : Host σ} {kept : σ → Prop}

theorem keeps_described (result : Value) : Keeps kept (described result : Act σ Value) := by
  rcases described_eq_give (σ := σ) result with ⟨outcome, same⟩
  exact same ▸ Act.keeps_give outcome

mutual
/-- An expression breaks no invariant that the operations preserve. -/
theorem keeps_evaluate (preserves : host.Preserves kept) :
    ∀ expr, Keeps kept (evaluate host expr)
  | .literal _ => keeps_pure _
  | .equals left right | .and left right | .or left right =>
      (keeps_evaluate preserves left).bind fun _ =>
        (keeps_evaluate preserves right).bind fun _ => keeps_pure _
  | .matching _ text | .capture _ text _ =>
      (keeps_evaluate preserves text).bind fun _ => keeps_pure _
  | .call receiver method arguments => by
      intro state holds
      cases resolved : host.resolve receiver method state with
      | error failure =>
          rw [evaluate_call_of_error resolved]
          exact holds
      | ok operation =>
          -- the arguments may change what the names stand for, but not what was looked up
          rw [evaluate_call_of_ok resolved]
          refine Act.reached_bind kept (keeps_evaluateAll preserves arguments state holds)
            fun evaluated between => ?_
          have written := areWritable_of_evaluateAll evaluated
          exact ((preserves.operation holds resolved _ written).bind keeps_described) _ between
  | .foreign _ => keeps_throw _

theorem keeps_evaluateAll (preserves : host.Preserves kept) :
    ∀ exprs, Keeps kept (evaluateAll host exprs)
  | [] => keeps_pure _
  | expr :: rest =>
      (keeps_evaluate preserves expr).bind fun _ =>
        (keeps_evaluateAll preserves rest).bind fun _ => keeps_pure _
end

variable (preserves : host.Preserves kept)

include preserves

theorem keeps_holds (condition : Expr) : Keeps kept (condition.holds host) :=
  (keeps_evaluate preserves condition).bind fun _ => keeps_pure _

theorem keeps_runAll (exprs : List Expr) : Keeps kept (runAll host exprs) := by
  induction exprs with
  | nil => exact keeps_pure _
  | cons expr rest induction =>
      exact (keeps_evaluate preserves expr).bind fun _ => induction

end Expr

end RobotRules
