import RobotRules.Proofs.Evaluation.Steps

/-! The calls that an evaluation makes. A host is traced by adding to its state a list
of the calls that were handed to operations. Values, failures and states stay the same
under tracing, so two expressions that evaluate alike in every host, the traced ones
included, also make the same calls in the same order. -/

namespace RobotRules

/-- A call as its operation receives it. -/
structure Dispatch where
  receiver : Text
  method : Text
  arguments : List Value

namespace Host

variable {σ α β : Type}

/-- The operation of a call, which notes the call before it runs. -/
def noting (receiver method : Text) (operation : List Value → Act σ Value) :
    List Value → Act (σ × List Dispatch) Value := fun arguments (state, calls) =>
  let calls := calls ++ [⟨receiver, method, arguments⟩]
  match operation arguments state with
  | .ok result state => .ok result (state, calls)
  | .error failure state => .error failure (state, calls)

/-- The host that also keeps a list of the calls. -/
def traced (host : Host σ) : Host (σ × List Dispatch) where
  resolve receiver method state :=
    (host.resolve receiver method state.1).map (noting receiver method)
  record entry state := (host.record entry state.1, state.2)

theorem resolve_traced_eq_ok_iff {host : Host σ} {receiver method : Text}
    {state : σ × List Dispatch} {operation : List Value → Act (σ × List Dispatch) Value} :
    host.traced.resolve receiver method state = .ok operation ↔
      ∃ plain, host.resolve receiver method state.1 = .ok plain ∧
        noting receiver method plain = operation := by
  rw [traced]
  dsimp only
  cases host.resolve receiver method state.1 <;> simp [Except.map]

theorem resolve_traced_eq_error_iff {host : Host σ} {receiver method : Text}
    {state : σ × List Dispatch} {failure : Failure} :
    host.traced.resolve receiver method state = .error failure ↔
      host.resolve receiver method state.1 = .error failure := by
  rw [traced]
  dsimp only
  cases host.resolve receiver method state.1 <;> simp [Except.map]

/-- What comes of an action, without the list of calls. -/
def dropCalls : EStateM.Result Failure (σ × List Dispatch) α → EStateM.Result Failure σ α
  | .ok result state => .ok result state.1
  | .error failure state => .error failure state.1

/-- An action on a state with a list of calls that does what `plain` does. -/
def Follows (tracing : Act (σ × List Dispatch) α) (plain : Act σ α) : Prop :=
  ∀ state calls, dropCalls (tracing (state, calls)) = plain state

theorem follows_pure (result : α) :
    Follows (pure result : Act (σ × List Dispatch) α) (pure result) :=
  fun _ _ => rfl

theorem Follows.bind {tracing : Act (σ × List Dispatch) α} {plain : Act σ α}
    {tracingNext : α → Act (σ × List Dispatch) β} {plainNext : α → Act σ β}
    (first : Follows tracing plain)
    (next : ∀ result, Follows (tracingNext result) (plainNext result)) :
    Follows (tracing >>= tracingNext) (plain >>= plainNext) := by
  intro state calls
  change dropCalls (EStateM.bind _ _ _) = EStateM.bind _ _ _
  unfold EStateM.bind
  rw [← first state calls]
  cases tracing (state, calls) with
  | ok result reached => exact next result reached.1 reached.2
  | error failure reached => rfl

theorem follows_noting (receiver method : Text) (operation : List Value → Act σ Value)
    (arguments : List Value) :
    Follows (noting receiver method operation arguments) (operation arguments) := by
  intro state calls
  unfold noting
  dsimp only
  cases operation arguments state <;> rfl

end Host

namespace Expr

open Host (Follows follows_pure follows_noting resolve_traced_eq_ok_iff
  resolve_traced_eq_error_iff)

variable {σ : Type} (host : Host σ)

theorem follows_described (result : Value) :
    Follows (described result : Act (σ × List Dispatch) Value) (described result) := by
  unfold described
  split
  · exact follows_pure result
  · exact fun _ _ => rfl

mutual
/-- Tracing changes nothing but the list of calls. -/
theorem follows_evaluate : ∀ expr, Follows (evaluate host.traced expr) (evaluate host expr)
  | .literal value => follows_pure _
  | .equals left right | .and left right | .or left right =>
      (follows_evaluate left).bind fun _ =>
        (follows_evaluate right).bind fun _ => follows_pure _
  | .matching _ text | .capture _ text _ =>
      (follows_evaluate text).bind fun _ => follows_pure _
  | .call receiver method arguments => by
      intro state calls
      cases found : host.resolve receiver method state with
      | error failure =>
          rw [evaluate_call_of_error (resolve_traced_eq_error_iff.mpr found),
            evaluate_call_of_error found]
          rfl
      | ok operation =>
          rw [evaluate_call_of_ok (resolve_traced_eq_ok_iff.mpr ⟨operation, found, rfl⟩),
            evaluate_call_of_ok found]
          exact (follows_evaluateAll arguments).bind (fun values =>
            (follows_noting receiver method operation values).bind follows_described) state calls
  | .foreign value => fun _ _ => rfl

theorem follows_evaluateAll : ∀ exprs,
    Follows (evaluateAll host.traced exprs) (evaluateAll host exprs)
  | [] => follows_pure _
  | expr :: rest =>
      (follows_evaluate expr).bind fun _ =>
        (follows_evaluateAll rest).bind fun _ => follows_pure _
end

end Expr

end RobotRules
