import Mathlib.Data.List.Forall2
import RobotRules.Capability.Registry
import RobotRules.Proofs.Evaluation.Traced

/-! The order of evaluation. Which calls an expression makes and in which order is seen from
its tree, for no value of an operand decides whether another operand is evaluated. Only a
failure makes a difference, and it cuts the calls short. A call whose names stand for nothing
fails before any of its arguments is looked at. -/

namespace RobotRules

/-- A call as it stands in an expression. -/
structure CallNode where
  receiver : Text
  method : Text
  arguments : List Expr

namespace Dispatch

/-- The operation that the call names is handed one value for each argument. -/
structure IsOf (dispatch : Dispatch) (node : CallNode) : Prop where
  receiver : dispatch.receiver = node.receiver
  method : dispatch.method = node.method
  arity : dispatch.arguments.length = node.arguments.length

/-- The calls are made one after the other, up to some point. -/
def AreFirstOf (made : List Dispatch) (nodes : List CallNode) : Prop :=
  ∃ done left, nodes = done ++ left ∧ List.Forall₂ IsOf made done

theorem areFirstOf_nil (nodes : List CallNode) : AreFirstOf [] nodes :=
  ⟨[], nodes, rfl, .nil⟩

theorem AreFirstOf.of_all {made : List Dispatch} {nodes : List CallNode}
    (all : List.Forall₂ IsOf made nodes) : AreFirstOf made nodes :=
  ⟨nodes, [], (List.append_nil _).symm, all⟩

theorem AreFirstOf.append_right {made : List Dispatch} {nodes : List CallNode}
    (first : AreFirstOf made nodes) (others : List CallNode) :
    AreFirstOf made (nodes ++ others) := by
  rcases first with ⟨done, left, rfl, areDone⟩
  exact ⟨done, left ++ others, List.append_assoc .., areDone⟩

theorem AreFirstOf.append_left {made more : List Dispatch} {nodes others : List CallNode}
    (all : List.Forall₂ IsOf made nodes) (first : AreFirstOf more others) :
    AreFirstOf (made ++ more) (nodes ++ others) := by
  rcases first with ⟨done, left, rfl, areDone⟩
  exact ⟨nodes ++ done, left, (List.append_assoc ..).symm, List.rel_append all areDone⟩

end Dispatch

open Dispatch (IsOf AreFirstOf areFirstOf_nil)

namespace Host

variable {σ α β : Type} {nodes others : List CallNode}

theorem Follows.exists_of_ok {tracing : Act (σ × List Dispatch) α} {plain : Act σ α}
    (follows : Follows tracing plain) {state after : σ} {value : α}
    (done : plain state = .ok value after) (calls : List Dispatch) :
    ∃ all, tracing (state, calls) = .ok value (after, all) := by
  have same := (follows state calls).trans done
  cases traced : tracing (state, calls) with
  | ok result reached =>
      rw [traced] at same
      cases same
      exact ⟨reached.2, rfl⟩
  | error failure reached =>
      rw [traced] at same
      cases same

theorem Follows.exists_of_error {tracing : Act (σ × List Dispatch) α} {plain : Act σ α}
    (follows : Follows tracing plain) {state after : σ} {failure : Failure}
    (failed : plain state = .error failure after) (calls : List Dispatch) :
    ∃ all, tracing (state, calls) = .error failure (after, all) := by
  have same := (follows state calls).trans failed
  cases traced : tracing (state, calls) with
  | ok result reached =>
      rw [traced] at same
      cases same
  | error failure reached =>
      rw [traced] at same
      cases same
      exact ⟨reached.2, rfl⟩

/-- An action makes the calls, all of them if it gives a result, and some of the first ones
if it fails. -/
def Makes (nodes : List CallNode) (action : Act (σ × List Dispatch) α) : Prop :=
  ∀ state calls, match action (state, calls) with
    | .ok _ (_, all) => ∃ made, all = calls ++ made ∧ List.Forall₂ IsOf made nodes
    | .error _ (_, all) => ∃ made, all = calls ++ made ∧ AreFirstOf made nodes

theorem makes_pure (value : α) : Makes [] (pure value : Act (σ × List Dispatch) α) :=
  fun _ calls => ⟨[], (List.append_nil calls).symm, .nil⟩

theorem makes_throw (nodes : List CallNode) (failure : Failure) :
    Makes nodes (throw failure : Act (σ × List Dispatch) α) :=
  fun _ calls => ⟨[], (List.append_nil calls).symm, areFirstOf_nil nodes⟩

theorem Makes.bind {first : Act (σ × List Dispatch) α} {next : α → Act (σ × List Dispatch) β}
    (one : Makes nodes first)
    (two : ∀ {before after value}, first before = .ok value after → Makes others (next value)) :
    Makes (nodes ++ others) (first >>= next) := by
  intro state calls
  have start := one state calls
  cases done : first (state, calls) with
  | error failure reached =>
      rw [done] at start
      rw [Act.bind_of_error next done]
      rcases start with ⟨made, isAll, areFirst⟩
      exact ⟨made, isAll, areFirst.append_right others⟩
  | ok value middle =>
      rw [done] at start
      rw [Act.bind_of_ok next done]
      rcases middle with ⟨between, all⟩
      rcases start with ⟨made, rfl, areMade⟩
      have rest := two done between (calls ++ made)
      revert rest
      cases next value (between, calls ++ made) with
      | error failure reached =>
          rintro ⟨more, isAll, areFirst⟩
          exact ⟨made ++ more, isAll.trans (List.append_assoc ..), areFirst.append_left areMade⟩
      | ok result reached =>
          rintro ⟨more, isAll, areMore⟩
          exact ⟨made ++ more, isAll.trans (List.append_assoc ..), List.rel_append areMade areMore⟩

/-- What is done with a value makes no call. -/
theorem Makes.map {first : Act (σ × List Dispatch) α} (one : Makes nodes first) (f : α → β) :
    Makes nodes (first >>= fun value => pure (f value)) := by
  have both : Makes (nodes ++ []) (first >>= fun value => pure (f value)) :=
    one.bind fun _ => makes_pure _
  rwa [List.append_nil] at both

theorem makes_noting {node : CallNode} {arguments : List Value}
    (operation : List Value → Act σ Value)
    (arity : arguments.length = node.arguments.length) :
    Makes [node] (noting node.receiver node.method operation arguments) := by
  intro state calls
  have isOf : IsOf ⟨node.receiver, node.method, arguments⟩ node := ⟨rfl, rfl, arity⟩
  unfold noting
  dsimp only
  cases operation arguments state with
  | ok result reached => exact ⟨_, rfl, .cons isOf .nil⟩
  | error failure reached => exact ⟨_, rfl, .of_all (.cons isOf .nil)⟩

end Host

namespace Expr

open Host (Makes makes_pure makes_throw makes_noting)

mutual
/-- The calls in an expression from left to right, each after those in its arguments. -/
def callNodes : Expr → List CallNode
  | .literal _ | .foreign _ => []
  | .call receiver method arguments => callNodesIn arguments ++ [⟨receiver, method, arguments⟩]
  | .equals left right | .and left right | .or left right => callNodes left ++ callNodes right
  | .matching _ text | .capture _ text _ => callNodes text

def callNodesIn : List Expr → List CallNode
  | [] => []
  | expr :: rest => callNodes expr ++ callNodesIn rest
end

example :
    (callNodes (.or (.call "A" "f" [.call "B" "g" [], .literal "x"]) (.call "C" "h" []))).map
      CallNode.method = ["g", "f", "h"] := rfl

section

variable {σ : Type} {host : Host σ}

theorem evaluateAll_cons (expr : Expr) (rest : List Expr) :
    evaluateAll host (expr :: rest) =
      evaluate host expr >>= fun value =>
        evaluateAll host rest >>= fun values => pure (value :: values) := rfl

theorem length_of_evaluateAll {exprs : List Expr} {values : List Value} {before after : σ}
    (done : evaluateAll host exprs before = .ok values after) : values.length = exprs.length := by
  induction exprs generalizing values before with
  | nil =>
      cases done
      rfl
  | cons expr rest induction =>
      rw [evaluateAll_cons] at done
      rcases Act.bind_eq_ok_iff.mp done with ⟨value, middle, _, later⟩
      rcases Act.bind_eq_ok_iff.mp later with ⟨behind, last, others, same⟩
      cases same
      rw [List.length_cons, List.length_cons, induction others]

end

variable {σ : Type} (host : Host σ)

theorem makes_described (result : Value) :
    Makes [] (described result : Act (σ × List Dispatch) Value) := by
  unfold described
  split
  · exact makes_pure result
  · exact makes_throw [] _

mutual
/-- An expression makes its calls in the order in which they stand. -/
theorem makes_evaluate : ∀ expr, Makes (callNodes expr) (evaluate host.traced expr)
  | .literal _ => makes_pure _
  | .equals left right | .and left right | .or left right =>
      (makes_evaluate left).bind fun _ => (makes_evaluate right).map _
  | .matching _ text | .capture _ text _ => (makes_evaluate text).map _
  | .call receiver method arguments => by
      intro state calls
      cases found : host.resolve receiver method state with
      | error failure =>
          rw [evaluate_call_of_error (Host.resolve_traced_eq_error_iff.mpr found)]
          exact (makes_throw _ failure : Makes _ (throw failure : Act _ Value)) state calls
      | ok operation =>
          rw [evaluate_call_of_ok (Host.resolve_traced_eq_ok_iff.mpr ⟨operation, found, rfl⟩)]
          have ends {values : List Value} (arity : values.length = arguments.length) :
              Makes [⟨receiver, method, arguments⟩]
                (Host.noting receiver method operation values >>= described) :=
            (makes_noting operation arity).bind fun _ => makes_described _
          exact (makes_evaluateAll arguments).bind (fun done => ends (length_of_evaluateAll done))
            state calls
  | .foreign _ => makes_throw _ _

theorem makes_evaluateAll : ∀ exprs, Makes (callNodesIn exprs) (evaluateAll host.traced exprs)
  | [] => makes_pure _
  | expr :: rest => (makes_evaluate expr).bind fun _ => (makes_evaluateAll rest).map _
end

/-! How far an evaluation gets. -/

/-- The operands of an expression in the order of their evaluation. -/
def operands : Expr → List Expr
  | .literal _ | .foreign _ => []
  | .call _ _ arguments => arguments
  | .equals left right | .and left right | .or left right => [left, right]
  | .matching _ text | .capture _ text _ => [text]

/-- Whether an expression gets as far as its operands: the names of a call have to stand for
an operation. -/
def Begins (state : σ) : Expr → Prop
  | .call receiver method _ => ∃ operation, host.resolve receiver method state = .ok operation
  | _ => True

/-- The evaluation of an expression comes to a part of it, in the state that the parts before
it have left. -/
inductive Reaches (part : Expr) (reached : σ) : Expr → σ → Prop
  | here : Reaches part reached part reached
  | operand {expr operand : Expr} {earlier later : List Expr} {values : List Value}
      {state middle : σ} : Begins host state expr →
      expr.operands = earlier ++ operand :: later →
      evaluateAll host earlier state = .ok values middle →
      Reaches part reached operand middle → Reaches part reached expr state

variable {host} {state middle reached : σ} {failure : Failure}

theorem evaluateAll_of_error {earlier : List Expr} {values : List Value} {operand : Expr}
    (before : evaluateAll host earlier state = .ok values middle)
    (failed : evaluate host operand middle = .error failure reached) (later : List Expr) :
    evaluateAll host (earlier ++ operand :: later) state = .error failure reached := by
  induction earlier generalizing values state with
  | nil =>
      cases before
      exact Act.bind_of_error _ failed
  | cons expr rest induction =>
      rw [evaluateAll_cons] at before
      rcases Act.bind_eq_ok_iff.mp before with ⟨value, next, first, afterFirst⟩
      rcases Act.bind_eq_ok_iff.mp afterFirst with ⟨behind, last, others, same⟩
      cases same
      rw [List.cons_append, evaluateAll_cons, Act.bind_of_ok _ first]
      exact Act.bind_of_error _ (induction others)

theorem error_of_evaluateAll_single {text : Expr} {finish : Value → Value}
    (failed : evaluateAll host [text] state = .error failure reached) :
    (evaluate host text >>= fun value => pure (finish value)) state = .error failure reached := by
  rw [evaluateAll_cons] at failed
  rcases Act.bind_eq_error_iff.mp failed with first | ⟨value, next, _, nothing⟩
  · exact Act.bind_of_error _ first
  · cases nothing

theorem error_of_evaluateAll_pair {left right : Expr} {finish : Value → Value → Value}
    (failed : evaluateAll host [left, right] state = .error failure reached) :
    (evaluate host left >>= fun first => evaluate host right >>= fun second =>
      pure (finish first second)) state = .error failure reached := by
  rw [evaluateAll_cons] at failed
  rcases Act.bind_eq_error_iff.mp failed with first | ⟨value, next, first, later⟩
  · exact Act.bind_of_error _ first
  · rw [Act.bind_of_ok _ first]
    rcases Act.bind_eq_error_iff.mp later with others | ⟨values, last, _, nothing⟩
    · exact error_of_evaluateAll_single others
    · cases nothing

/-- What goes wrong in an operand goes wrong in the expression. -/
theorem evaluate_of_operands_error {expr : Expr} (begins : Begins host state expr)
    (failed : evaluateAll host expr.operands state = .error failure reached) :
    evaluate host expr state = .error failure reached := by
  cases expr with
  | literal | foreign => cases failed
  | call receiver method arguments =>
      rcases begins with ⟨operation, resolved⟩
      rw [evaluate_call_of_ok resolved]
      exact Act.bind_of_error _ failed
  | equals left right | and left right | or left right => exact error_of_evaluateAll_pair failed
  | matching _ text | capture _ text _ => exact error_of_evaluateAll_single failed

/-- The failure of a part is the failure of the whole, and nothing more happens. -/
theorem evaluate_of_reaches {part expr : Expr} {after : σ}
    (reaches : Reaches host part reached expr state)
    (failed : evaluate host part reached = .error failure after) :
    evaluate host expr state = .error failure after := by
  induction reaches with
  | here => exact failed
  | operand begins isOperand before _ induction =>
      refine evaluate_of_operands_error begins ?_
      rw [isOperand]
      exact evaluateAll_of_error before induction _

end Expr

/-- Whether rules can make a call: memory has operations under its name, and each capability
under the one that it is registered by. -/
def World.Knows (receiver method : Text) (world : World) : Prop :=
  if receiver = World.memoryReceiver then method ∈ MemoryOperation.all.map Prod.fst
  else ∃ capability, world.capability? receiver = some capability ∧
    method ∈ capability.operations.map Prod.fst

theorem Apps.find?_isSome_iff {α : Type} {name : Text} {table : List (Text × α)} :
    (find? name table).isSome = true ↔ name ∈ table.map Prod.fst := by
  simp [find?]

/-- A call that rules cannot make is an error of evaluation. -/
theorem World.resolve_knows (receiver method : Text) (world : World) :
    match World.host.resolve receiver method world with
    | .ok _ => world.Knows receiver method
    | .error failure => ¬world.Knows receiver method ∧ failure.className = "EvaluationError" := by
  change match world.resolve receiver method with
    | .ok _ => _
    | .error failure => _
  unfold Knows resolve
  split_ifs
  · cases found : Apps.find? method MemoryOperation.all with
    | none => exact ⟨by simp [← Apps.find?_isSome_iff, found], rfl⟩
    | some operation => exact Apps.find?_isSome_iff.mp (by rw [found]; rfl)
  · cases registered : world.capability? receiver with
    | none => exact ⟨by simp, rfl⟩
    | some capability =>
        dsimp only
        cases found : capability.operation? method with
        | none =>
            refine ⟨?_, rfl⟩
            rintro ⟨other, same, offered⟩
            cases same
            rw [← Apps.find?_isSome_iff, ← Capability.operation?, found] at offered
            cases offered
        | some operation =>
            have offered : method ∈ capability.operations.map Prod.fst := by
              rw [← Apps.find?_isSome_iff, ← Capability.operation?, found]
              rfl
            exact ⟨capability, rfl, offered⟩

namespace Expr

/-- Whatever the values of its operands, an expression that gives a value has made all of its
calls, each once, in the order in which they stand; one that fails has made some of the first
ones. A call whose names stand for nothing fails in the state in which it is reached, so none
of the calls in its arguments is made. In the world of rules such a failure is an error of
evaluation, and it is that of the calls which neither memory nor a capability knows. -/
theorem evaluate_calls_in_order {σ : Type} (host : Host σ) (expr : Expr) (state : σ) :
    (∀ value after, evaluate host expr state = .ok value after →
      ∃ made, evaluate host.traced expr (state, []) = .ok value (after, made) ∧
        List.Forall₂ IsOf made expr.callNodes) ∧
    (∀ failure after, evaluate host expr state = .error failure after →
      ∃ made, evaluate host.traced expr (state, []) = .error failure (after, made) ∧
        AreFirstOf made expr.callNodes) ∧
    (∀ receiver method arguments reached made failure,
      Reaches host.traced (.call receiver method arguments) (reached, made) expr (state, []) →
      host.resolve receiver method reached = .error failure →
      evaluate host.traced expr (state, []) = .error failure (reached, made)) ∧
    ∀ (world : World) receiver method,
      match World.host.resolve receiver method world with
      | .ok _ => world.Knows receiver method
      | .error failure =>
        ¬world.Knows receiver method ∧ failure.className = "EvaluationError" := by
  have makes := makes_evaluate host expr state []
  refine ⟨fun value after done => ?_, fun failure after failed => ?_,
    fun receiver method arguments reached made failure reaches unknown => ?_,
    fun world receiver method => World.resolve_knows receiver method world⟩
  · rcases (follows_evaluate host expr).exists_of_ok done [] with ⟨all, traced⟩
    rw [traced] at makes
    rcases makes with ⟨made, rfl, areMade⟩
    exact ⟨_, traced, areMade⟩
  · rcases (follows_evaluate host expr).exists_of_error failed [] with ⟨all, traced⟩
    rw [traced] at makes
    rcases makes with ⟨made, rfl, areMade⟩
    exact ⟨_, traced, areMade⟩
  · refine evaluate_of_reaches reaches (evaluate_call_of_error ?_ arguments)
    change (host.resolve receiver method reached).map _ = _
    rw [unknown]
    rfl

end Expr

end RobotRules
