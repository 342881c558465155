import RobotRules.Proofs.Evaluation.Traced
import RobotRules.Proofs.Expr.Canonical

/-! Chains of one operator. The text of a tree does not show whether a chain of
disjunctions or of conjunctions leans to the left or to the right, and it is read as one
that leans to the left. All operands of a chain are evaluated in the order in which
they are written, whichever way it leans, and truth of a chain depends on the operands
alone. So the tree that is read back does exactly what the written one does. -/

namespace RobotRules.Expr

/-- The operators that form chains. -/
inductive Connective where
  | disjunction
  | conjunction

namespace Connective

/-- The expression with the operator between two operands. -/
def make : Connective → Expr → Expr → Expr
  | disjunction => .or
  | conjunction => .and

/-- How the operator combines the truth of its operands. -/
def combine : Connective → Bool → Bool → Bool
  | disjunction => Bool.or
  | conjunction => Bool.and

/-- The level of the expressions that the operator makes. -/
def level : Connective → Level
  | disjunction => .disjunction
  | conjunction => .conjunction

/-- The chain of `left` and of the operands of `right`, leaning to the left if `right`
does. -/
def join (connective : Connective) (left : Expr) : (right : Expr) → Expr
  | .or first last =>
    match connective with
    | disjunction => .or (join disjunction left first) last
    | conjunction => .and left (.or first last)
  | .and first last =>
    match connective with
    | disjunction => .or left (.and first last)
    | conjunction => .and (join conjunction left first) last
  | right => connective.make left right

end Connective

mutual
/-- The tree with all of its chains turned to the left. -/
def leftward : Expr → Expr
  | .literal value => .literal value
  | .call receiver method arguments => .call receiver method (leftwardAll arguments)
  | .equals left right => .equals (leftward left) (leftward right)
  | .and left right => Connective.conjunction.join (leftward left) (leftward right)
  | .or left right => Connective.disjunction.join (leftward left) (leftward right)
  | .matching pattern text => .matching pattern (leftward text)
  | .capture pattern text index => .capture pattern (leftward text) index
  | .foreign value => .foreign value

def leftwardAll : List Expr → List Expr
  | [] => []
  | expr :: rest => leftward expr :: leftwardAll rest
end

theorem leftwardAll_eq_map (exprs : List Expr) : leftwardAll exprs = exprs.map leftward := by
  induction exprs with
  | nil => rfl
  | cons expr rest induction => rw [leftwardAll, induction, List.map_cons]

/-- Canonical trees, but for chains, which may lean either way anywhere. -/
inductive AlmostCanonical : Expr → Prop
  | literal {value : Text} : '"' ∉ value → AlmostCanonical (.literal value)
  | call {receiver method : Text} {arguments : List Expr} :
      IsName receiver → IsName method →
      (∀ argument ∈ arguments, AlmostCanonical argument) →
      AlmostCanonical (.call receiver method arguments)
  | equals {left right : Expr} :
      AlmostCanonical left → AlmostCanonical right →
      Fits .primary left → Fits .primary right → AlmostCanonical (.equals left right)
  | and {left right : Expr} :
      AlmostCanonical left → AlmostCanonical right →
      Fits .conjunction left → Fits .conjunction right → AlmostCanonical (.and left right)
  | or {left right : Expr} :
      AlmostCanonical left → AlmostCanonical right → AlmostCanonical (.or left right)
  | matching {pattern : Text} {text : Expr} :
      '"' ∉ pattern → AlmostCanonical text → AlmostCanonical (.matching pattern text)
  | capture {pattern : Text} {text : Expr} {index : Int} :
      '"' ∉ pattern → AlmostCanonical text → Number.isWritable index = true →
      AlmostCanonical (.capture pattern text index)

/-! The text of a chain. -/

namespace Connective

theorem render_join (connective : Connective) (left right : Expr) :
    render (connective.join left right) = render (connective.make left right) := by
  fun_induction join connective left right with
  | case1 first last induction | case4 first last induction =>
      simp [render, induction, make]
  | _ => rfl

/-! The chain is canonical if its parts are. -/

/-- What is asked of the operands of a canonical chain. -/
theorem canonical_make_iff (connective : Connective) (left right : Expr) :
    Canonical (connective.make left right) ↔ Canonical left ∧ Canonical right ∧
      Fits connective.level left ∧ Fits connective.level.tighter right := by
  cases connective with
  | disjunction =>
      constructor
      · rintro (_ | _ | _ | _ | ⟨left, right, fits⟩)
        exact ⟨left, right, fits_disjunction _, fits⟩
      · rintro ⟨left, right, _, fits⟩
        exact .or left right fits
  | conjunction =>
      constructor
      · rintro (_ | _ | _ | ⟨left, right, fitsLeft, fitsRight⟩)
        exact ⟨left, right, fitsLeft, fitsRight⟩
      · rintro ⟨left, right, fitsLeft, fitsRight⟩
        exact .and left right fitsLeft fitsRight

theorem fits_make (connective : Connective) (left right : Expr) :
    Fits connective.level (connective.make left right) := by
  cases connective <;> trivial

theorem fits_join (connective : Connective) (left right : Expr) :
    Fits connective.level (connective.join left right) := by
  fun_induction join connective left right with
  | case5 connective => exact fits_make connective _ _
  | _ => trivial

theorem canonical_join (connective : Connective) {left right : Expr}
    (canonicalLeft : Canonical left) (fitsLeft : Fits connective.level left)
    (canonicalRight : Canonical right) (fitsRight : Fits connective.level right) :
    Canonical (connective.join left right) := by
  fun_induction join connective left right with
  | case1 first last induction =>
      have parts := (canonical_make_iff .disjunction first last).mp canonicalRight
      exact (canonical_make_iff .disjunction _ last).mpr
        ⟨induction fitsLeft parts.1 parts.2.2.1, parts.2.1, fits_disjunction _, parts.2.2.2⟩
  | case2 => exact fitsRight.elim
  | case3 first last =>
      exact .or canonicalLeft canonicalRight trivial
  | case4 first last induction =>
      have parts := (canonical_make_iff .conjunction first last).mp canonicalRight
      exact (canonical_make_iff .conjunction _ last).mpr
        ⟨induction fitsLeft parts.1 parts.2.2.1, parts.2.1, fits_join .conjunction left first,
          parts.2.2.2⟩
  | case5 connective right notOr notAnd =>
      refine (canonical_make_iff connective left right).mpr
        ⟨canonicalLeft, canonicalRight, fitsLeft, ?_⟩
      cases right with
      | or first last => exact absurd rfl (notOr first last)
      | and first last => exact absurd rfl (notAnd first last)
      | _ => cases connective <;> trivial

/-! The value of a chain. -/

section Value

variable {σ : Type} (host : Host σ)

theorem evaluate_make (connective : Connective) (left right : Expr) :
    evaluate host (connective.make left right) = do
      let left ← evaluate host left
      let right ← evaluate host right
      return .boolean (connective.combine left.asBool right.asBool) := by
  cases connective <;> rfl

theorem combine_assoc (connective : Connective) (first second third : Bool) :
    connective.combine (connective.combine first second) third =
      connective.combine first (connective.combine second third) := by
  cases connective
  · exact Bool.or_assoc first second third
  · exact Bool.and_assoc first second third

/-- The operands of a chain are evaluated in their order whichever way it leans. -/
theorem evaluate_make_make (connective : Connective) (left first last : Expr) :
    evaluate host (connective.make (connective.make left first) last) =
      evaluate host (connective.make left (connective.make first last)) := by
  simp only [evaluate_make, bind_assoc, pure_bind, Value.asBool, combine_assoc]

theorem evaluate_make_congr (connective : Connective) {left left' right right' : Expr}
    (sameLeft : evaluate host left = evaluate host left')
    (sameRight : evaluate host right = evaluate host right') :
    evaluate host (connective.make left right) =
      evaluate host (connective.make left' right') := by
  rw [evaluate_make, evaluate_make, sameLeft, sameRight]

theorem evaluate_join (connective : Connective) (left right : Expr) :
    evaluate host (connective.join left right) =
      evaluate host (connective.make left right) := by
  fun_induction join connective left right with
  | case1 first last induction =>
      exact (evaluate_make_congr host .disjunction induction rfl).trans
        (evaluate_make_make host .disjunction left first last)
  | case4 first last induction =>
      exact (evaluate_make_congr host .conjunction induction rfl).trans
        (evaluate_make_make host .conjunction left first last)
  | _ => rfl

end Value

end Connective

/-! The same of whole trees, whose chains are turned at every depth. -/

theorem Fits.leftward {level : Level} {tree : Expr} (fits : Fits level tree) :
    Fits level (leftward tree) := by
  cases tree with
  | or left right =>
      cases level with
      | disjunction => exact fits_disjunction _
      | _ => exact fits.elim
  | and left right =>
      cases level with
      | disjunction => exact fits_disjunction _
      | conjunction => exact Connective.fits_join .conjunction _ _
      | _ => exact fits.elim
  | _ => cases level <;> exact fits

theorem canonical_leftward {tree : Expr} (almost : AlmostCanonical tree) :
    Canonical (leftward tree) := by
  induction almost with
  | literal unquoted => exact .literal unquoted
  | call isReceiver isMethod _ induction =>
      rw [leftward, leftwardAll_eq_map]
      refine .call isReceiver isMethod fun argument member => ?_
      rcases List.mem_map.mp member with ⟨original, inArguments, equal⟩
      exact equal ▸ induction original inArguments
  | equals _ _ fitsLeft fitsRight left right =>
      exact .equals left right fitsLeft.leftward fitsRight.leftward
  | and _ _ fitsLeft fitsRight left right =>
      exact Connective.canonical_join .conjunction left fitsLeft.leftward right
        fitsRight.leftward
  | or _ _ left right =>
      exact Connective.canonical_join .disjunction left (fits_disjunction _) right
        (fits_disjunction _)
  | matching unquoted _ text => exact .matching unquoted text
  | capture unquoted _ writable text => exact .capture unquoted text writable

mutual
theorem render_leftward : ∀ tree, render (leftward tree) = render tree
  | .literal _ | .foreign _ => rfl
  | .call _ _ arguments => by
      simp only [leftward, render, renderAll_leftwardAll arguments]
  | .equals left right => by
      simp only [leftward, render, render_leftward left, render_leftward right]
  | .and left right => by
      simp only [leftward, Connective.render_join, Connective.make, render,
        render_leftward left, render_leftward right]
  | .or left right => by
      simp only [leftward, Connective.render_join, Connective.make, render,
        render_leftward left, render_leftward right]
  | .matching _ text | .capture _ text _ => by
      simp only [leftward, render, render_leftward text]

theorem renderAll_leftwardAll : ∀ trees, renderAll (leftwardAll trees) = renderAll trees
  | [] => rfl
  | tree :: rest => by
      simp only [leftwardAll, renderAll, render_leftward tree, renderAll_leftwardAll rest]
end

section Value

variable {σ : Type} (host : Host σ)

mutual
theorem evaluate_leftward : ∀ tree, evaluate host (leftward tree) = evaluate host tree
  | .literal _ | .foreign _ => rfl
  | .call _ _ arguments => by
      simp only [leftward, evaluate, evaluateAll_leftwardAll arguments]
  | .equals left right => by
      simp only [leftward, evaluate, evaluate_leftward left, evaluate_leftward right]
  | .and left right => by
      rw [leftward, Connective.evaluate_join]
      exact Connective.evaluate_make_congr host .conjunction
        (evaluate_leftward left) (evaluate_leftward right)
  | .or left right => by
      rw [leftward, Connective.evaluate_join]
      exact Connective.evaluate_make_congr host .disjunction
        (evaluate_leftward left) (evaluate_leftward right)
  | .matching _ text | .capture _ text _ => by
      simp only [leftward, evaluate, evaluate_leftward text]

theorem evaluateAll_leftwardAll : ∀ trees,
    evaluateAll host (leftwardAll trees) = evaluateAll host trees
  | [] => rfl
  | tree :: rest => by
      simp only [leftwardAll, evaluateAll, evaluate_leftward tree,
        evaluateAll_leftwardAll rest]
end

end Value

theorem renderError?_of_almostCanonical {tree : Expr} (almost : AlmostCanonical tree) :
    renderError? tree = none := by
  induction almost with
  | literal => rw [renderError?]
  | call _ _ _ induction => rw [renderError?, renderErrorIn?_eq_none induction]
  | equals _ _ _ _ left right | and _ _ _ _ left right | or _ _ left right =>
      rw [renderError?, left, right, Option.none_or]
  | matching _ _ text => rw [renderError?, text]
  | capture _ _ writable text => rw [renderError?, text, if_pos writable, Option.none_or]

/-- The text of an almost canonical tree is read, and the tree that is read evaluates
like the written one: in every host it gives the same value or failure, leaves the same
state and makes the same calls. -/
theorem exists_parse_evaluate_eq {tree : Expr} (almost : AlmostCanonical tree) :
    ∃ text reread, render? tree = .ok text ∧ parse text = .ok reread ∧
      ∀ {σ : Type} (host : Host σ), evaluate host reread = evaluate host tree ∧
        evaluate host.traced reread = evaluate host.traced tree := by
  refine ⟨render tree, leftward tree, ?_, ?_, fun host => ⟨?_, ?_⟩⟩
  · rw [render?, renderError?_of_almostCanonical almost]
  · rw [← render_leftward tree]
    exact parse_render (canonical_leftward almost)
  · exact evaluate_leftward host tree
  · exact evaluate_leftward host.traced tree

/-- A chain of calls that leans to the right, with another chain in an argument. -/
theorem exists_parse_evaluate_eq_right_leaning :
    let inner : Expr := .and (.literal "x") (.and (.literal "y") (.literal "z"))
    let tree : Expr := .or (.call "A" "b" [])
      (.or (.call "A" "c" [inner]) (.call "A" "d" []))
    AlmostCanonical tree ∧ ¬Canonical tree ∧
      ∃ text reread, render? tree = .ok text ∧ parse text = .ok reread ∧
        ∀ {σ : Type} (host : Host σ), evaluate host reread = evaluate host tree ∧
          evaluate host.traced reread = evaluate host.traced tree := by
  intro inner tree
  have literal : ∀ c : Char, c ≠ '"' → AlmostCanonical (.literal [c]) := fun c other =>
    .literal (by simpa using other.symm)
  have chain : AlmostCanonical inner :=
    .and (literal 'x' (by decide))
      (.and (literal 'y' (by decide)) (literal 'z' (by decide)) trivial trivial)
      trivial trivial
  have call : ∀ (method : Text) (arguments : List Expr), IsName method →
      (∀ argument ∈ arguments, AlmostCanonical argument) →
      AlmostCanonical (.call "A" method arguments) := fun _ _ isMethod each =>
    .call ⟨by decide, by decide, by decide⟩ isMethod each
  have almost : AlmostCanonical tree :=
    .or (call _ _ ⟨by decide, by decide, by decide⟩ (by simp))
      (.or (call _ _ ⟨by decide, by decide, by decide⟩ (by simpa using chain))
        (call _ _ ⟨by decide, by decide, by decide⟩ (by simp)))
  refine ⟨almost, fun canonical => ?_, exists_parse_evaluate_eq almost⟩
  exact ((Connective.canonical_make_iff .disjunction _ _).mp canonical).2.2.2

end RobotRules.Expr
