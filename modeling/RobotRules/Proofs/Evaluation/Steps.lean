import RobotRules.Evaluation

/-! Actions on a state one step at a time, and how a call is evaluated. -/

namespace RobotRules

namespace Act

variable {σ α β : Type} {state next : σ}

theorem get_bind (action : σ → Act σ α) : (get >>= action) state = action state state := rfl

theorem bind_of_ok {first : Act σ α} {value : α} (action : α → Act σ β)
    (done : first state = .ok value next) : (first >>= action) state = action value next := by
  change EStateM.bind first action state = _
  rw [EStateM.bind, done]

theorem bind_of_error {first : Act σ α} {failure : Failure} (action : α → Act σ β)
    (failed : first state = .error failure next) :
    (first >>= action) state = .error failure next := by
  change EStateM.bind first action state = _
  rw [EStateM.bind, failed]

theorem bind_eq_ok_iff {first : Act σ α} {action : α → Act σ β} {result : β} :
    (first >>= action) state = .ok result next ↔
      ∃ value between, first state = .ok value between ∧
        action value between = .ok result next := by
  cases reached : first state with
  | ok value between => simp [bind_of_ok action reached, and_assoc]
  | error failure between => simp [bind_of_error action reached]

theorem bind_eq_error_iff {first : Act σ α} {action : α → Act σ β} {failure : Failure} :
    (first >>= action) state = .error failure next ↔
      first state = .error failure next ∨
        ∃ value between, first state = .ok value between ∧
          action value between = .error failure next := by
  cases reached : first state with
  | ok value between => simp [bind_of_ok action reached, and_assoc]
  | error failure between => simp [bind_of_error action reached]

/-- The action that gives an outcome and does nothing. -/
def give (outcome : Except Failure α) : Act σ α := fun state =>
  match outcome with
  | .ok value => .ok value state
  | .error failure => .error failure state

theorem exists_eq_give (result : EStateM.Result Failure σ α) :
    ∃ outcome after, result = give outcome after := by
  cases result with
  | ok value after => exact ⟨.ok value, after, rfl⟩
  | error failure after => exact ⟨.error failure, after, rfl⟩

theorem give_inj {outcome other : Except Failure α} (same : give outcome state = give other next) :
    outcome = other ∧ state = next := by
  cases outcome <;> cases other <;> cases same <;> exact ⟨rfl, rfl⟩

end Act

namespace Expr

variable {σ : Type} {host : Host σ} {receiver method : Text} {state : σ} {value : Value}

theorem described_of_isWritable (writable : value.isWritable = true) :
    (described value : Act σ Value) = pure value := if_pos writable

theorem described_of_not_isWritable (unwritable : value.isWritable = false) :
    (described value : Act σ Value) = throw .integerTooLong := if_neg (by simp [unwritable])

/-- The result of a call is given, or the call fails because of it; neither takes a step. -/
theorem described_eq_give (value : Value) : ∃ outcome,
    (described value : Act σ Value) = Act.give outcome := by
  cases writable : value.isWritable with
  | true => exact ⟨.ok value, described_of_isWritable writable⟩
  | false => exact ⟨.error .integerTooLong, described_of_not_isWritable writable⟩

/-- The arguments of a call go to the operation that its names stand for beforehand. -/
theorem evaluate_call_of_ok {operation : List Value → Act σ Value}
    (resolved : host.resolve receiver method state = .ok operation) (arguments : List Expr) :
    evaluate host (.call receiver method arguments) state =
      (evaluateAll host arguments >>= fun values => operation values >>= described) state := by
  rw [evaluate, Act.get_bind, resolved]

theorem evaluate_call_of_error {failure : Failure}
    (resolved : host.resolve receiver method state = .error failure) (arguments : List Expr) :
    evaluate host (.call receiver method arguments) state = .error failure state := by
  rw [evaluate, Act.get_bind, resolved]
  rfl

/-- Whatever expressions give can be written: results of calls are looked at, and of all other
kinds only texts and truths are made. -/
theorem isWritable_of_evaluate {expr : Expr} {next : σ}
    (done : evaluate host expr state = .ok value next) : value.isWritable = true := by
  cases expr with
  | literal =>
      cases done
      rfl
  | equals left right | and left right | or left right =>
      rcases Act.bind_eq_ok_iff.mp done with ⟨_, _, _, rest⟩
      rcases Act.bind_eq_ok_iff.mp rest with ⟨_, _, _, given⟩
      cases given
      rfl
  | matching pattern text =>
      rcases Act.bind_eq_ok_iff.mp done with ⟨_, _, _, given⟩
      cases given
      rfl
  | capture pattern text index =>
      rcases Act.bind_eq_ok_iff.mp done with ⟨found, _, _, given⟩
      cases given
      cases Pattern.extract? pattern found.asText index <;> rfl
  | call receiver method arguments =>
      cases resolved : host.resolve receiver method state with
      | error failure =>
          rw [evaluate_call_of_error resolved] at done
          cases done
      | ok operation =>
          rw [evaluate_call_of_ok resolved] at done
          rcases Act.bind_eq_ok_iff.mp done with ⟨_, _, _, called⟩
          rcases Act.bind_eq_ok_iff.mp called with ⟨result, _, _, given⟩
          cases writable : result.isWritable with
          | true =>
              rw [described_of_isWritable writable] at given
              cases given
              exact writable
          | false =>
              rw [described_of_not_isWritable writable] at given
              cases given
  | foreign => cases done

theorem areWritable_of_evaluateAll {exprs : List Expr} {values : List Value} {next : σ}
    (done : evaluateAll host exprs state = .ok values next) :
    ∀ value ∈ values, value.isWritable = true := by
  induction exprs generalizing state values with
  | nil =>
      cases done
      simp
  | cons expr rest induction =>
      rcases Act.bind_eq_ok_iff.mp done with ⟨value, _, first, later⟩
      rcases Act.bind_eq_ok_iff.mp later with ⟨others, _, evaluated, given⟩
      cases given
      exact List.forall_mem_cons.mpr ⟨isWritable_of_evaluate first, induction evaluated⟩

theorem holds_of_evaluate {condition : Expr} {value : Value} {next : σ}
    (judged : condition.evaluate host state = .ok value next) :
    condition.holds host state = .ok value.asBool next :=
  Act.bind_of_ok _ judged

end Expr

end RobotRules
