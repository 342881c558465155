import Mathlib.Data.List.Forall2

/-! Results that are computed in steps, of which each can fail. -/

namespace RobotRules.Result

variable {ε α β : Type}

theorem toOption_eq_some_iff {result : Except ε α} {value : α} :
    result.toOption = some value ↔ result = .ok value := by
  cases result <;> simp [Except.toOption]

/-- A result of which something is seen to hold. -/
theorem exists_of_toOption_any {result : Except ε α} {holds : α → Bool}
    (seen : result.toOption.any holds = true) :
    ∃ value, result = .ok value ∧ holds value = true := by
  cases result with
  | error failure => cases seen
  | ok value => exact ⟨value, rfl, seen⟩

theorem bind_eq_ok_iff {first : Except ε α} {next : α → Except ε β} {result : β} :
    first >>= next = .ok result ↔ ∃ value, first = .ok value ∧ next value = .ok result := by
  cases first <;> simp [bind, Except.bind]

theorem bind_eq_error_iff {first : Except ε α} {next : α → Except ε β} {failure : ε} :
    first >>= next = .error failure ↔
      first = .error failure ∨ ∃ value, first = .ok value ∧ next value = .error failure := by
  cases first <;> simp [bind, Except.bind]

theorem mapM_eq_ok_iff {f : α → Except ε β} {inputs : List α} {outputs : List β} :
    inputs.mapM f = .ok outputs ↔
      List.Forall₂ (fun input output => f input = .ok output) inputs outputs := by
  induction inputs generalizing outputs with
  | nil => cases outputs <;> simp [pure, Except.pure]
  | cons input others induction =>
      rw [List.mapM_cons]
      cases first : f input with
      | error error => cases outputs <;> simp [bind, Except.bind, first]
      | ok output =>
          cases rest : others.mapM f with
          | error error =>
              cases outputs <;> simp [bind, Except.bind, first, ← induction, rest]
          | ok values =>
              cases outputs <;>
                simp [bind, Except.bind, pure, Except.pure, first, ← induction, rest]

theorem exists_of_mem_mapM {f : α → Except ε β} {inputs : List α} {outputs : List β}
    (all : inputs.mapM f = .ok outputs) {output : β} (member : output ∈ outputs) :
    ∃ input ∈ inputs, f input = .ok output := by
  have pairs := mapM_eq_ok_iff.mp all
  clear all
  induction pairs with
  | nil => simp at member
  | @cons input _ _ _ first _ induction =>
      rcases List.mem_cons.mp member with same | inOthers
      · exact ⟨input, by simp, same ▸ first⟩
      · rcases induction inOthers with ⟨other, inInputs, found⟩
        exact ⟨other, List.mem_cons_of_mem _ inInputs, found⟩

end RobotRules.Result
