import RobotRules.Proofs.Evaluation.Steps

/-! Evaluation in two states that cannot be told apart. If no operation of a host tells them
apart, no expression does: it gives the same value or fails in the same way, and the states
that are reached cannot be told apart either. -/

namespace RobotRules

namespace Act

variable {σ α β : Type} {alike : σ → σ → Prop}

/-- What comes of an action is the same in states that are alike, and so are the states
afterwards. -/
def Respects (alike : σ → σ → Prop) (action : Act σ α) : Prop :=
  ∀ ⦃state other⦄, alike state other → ∃ outcome next next', alike next next' ∧
    action state = give outcome next ∧ action other = give outcome next'

theorem respects_give (outcome : Except Failure α) : Respects alike (give outcome : Act σ α) :=
  fun state other related => ⟨outcome, state, other, related, rfl, rfl⟩

theorem respects_pure (value : α) : Respects alike (pure value : Act σ α) :=
  respects_give (.ok value)

theorem respects_throw (failure : Failure) : Respects alike (throw failure : Act σ α) :=
  respects_give (.error failure)

theorem respects_modify {change : σ → σ}
    (keeps : ∀ {state other}, alike state other → alike (change state) (change other)) :
    Respects alike (modify change : Act σ Unit) :=
  fun _ _ related => ⟨.ok (), _, _, keeps related, rfl, rfl⟩

theorem Respects.bind {first : Act σ α} {next : α → Act σ β} (one : Respects alike first)
    (two : ∀ value, Respects alike (next value)) : Respects alike (first >>= next) := by
  intro state other related
  rcases one related with ⟨outcome, between, between', meanwhile, done, done'⟩
  cases outcome with
  | error failure =>
      refine ⟨.error failure, between, between', meanwhile, ?_, ?_⟩
      · exact bind_of_error next done
      · exact bind_of_error next done'
  | ok value =>
      rw [bind_of_ok next done, bind_of_ok next done']
      exact two value meanwhile

/-- An action that looks at the state, but only at what is the same in states that are alike. -/
theorem Respects.get {next : σ → Act σ β}
    (same : ∀ {state other}, alike state other → next state = next other)
    (each : ∀ state, Respects alike (next state)) : Respects alike (get >>= next) := by
  intro state other related
  rw [get_bind, get_bind, ← same related]
  exact each state related

end Act

open Act (Respects respects_pure respects_throw)

/-- Neither the names of operations nor the operations tell states apart that are alike, and
the log is kept alike. -/
structure Host.Respects {σ : Type} (host : Host σ) (alike : σ → σ → Prop) : Prop where
  resolve : ∀ (receiver method : Text) {state other : σ}, alike state other →
    host.resolve receiver method state = host.resolve receiver method other
  operation : ∀ {receiver method : Text} {state : σ} {operation : List Value → Act σ Value},
    host.resolve receiver method state = .ok operation →
      ∀ arguments, Act.Respects alike (operation arguments)
  record : ∀ (entry : LogEntry) {state other : σ}, alike state other →
    alike (host.record entry state) (host.record entry other)

namespace Expr

variable {σ : Type} {host : Host σ} {alike : σ → σ → Prop}

theorem respects_described (result : Value) :
    Respects alike (described result : Act σ Value) := by
  rcases described_eq_give (σ := σ) result with ⟨outcome, same⟩
  exact same ▸ Act.respects_give outcome

mutual
/-- No expression tells states apart that the operations do not. -/
theorem respects_evaluate (respects : host.Respects alike) :
    ∀ expr, Respects alike (evaluate host expr)
  | .literal _ => respects_pure _
  | .equals left right | .and left right | .or left right =>
      (respects_evaluate respects left).bind fun _ =>
        (respects_evaluate respects right).bind fun _ => respects_pure _
  | .matching _ text | .capture _ text _ =>
      (respects_evaluate respects text).bind fun _ => respects_pure _
  | .call receiver method arguments => by
      intro state other related
      unfold evaluate
      rw [Act.get_bind, Act.get_bind, ← respects.resolve receiver method related]
      cases resolved : host.resolve receiver method state with
      | error failure => exact respects_throw failure related
      | ok operation =>
          -- the operation was looked up before the arguments, in the states as they were
          exact (respects_evaluateAll respects arguments).bind (fun values =>
            (respects.operation resolved values).bind respects_described) related
  | .foreign _ => respects_throw _

theorem respects_evaluateAll (respects : host.Respects alike) :
    ∀ exprs, Respects alike (evaluateAll host exprs)
  | [] => respects_pure _
  | expr :: rest =>
      (respects_evaluate respects expr).bind fun _ =>
        (respects_evaluateAll respects rest).bind fun _ => respects_pure _
end

variable (respects : host.Respects alike)

include respects

theorem respects_holds (condition : Expr) : Respects alike (condition.holds host) :=
  (respects_evaluate respects condition).bind fun _ => respects_pure _

theorem respects_runAll (exprs : List Expr) : Respects alike (runAll host exprs) := by
  induction exprs with
  | nil => exact respects_pure _
  | cons expr rest induction =>
      exact (respects_evaluate respects expr).bind fun _ => induction

end Expr

end RobotRules
