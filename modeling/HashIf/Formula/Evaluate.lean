import HashIf.Formula

/-!
# `HashIf.Formula.Evaluate`: truth values

Both traversals keep the work that is left on a stack of their own, so a chain of any length takes
no more room than its length.  Every node is visited: nothing is skipped on account of a value
that is known already.

## Contents
- `isStrict`: whether only nodes of the strict family occur.
- `Task`, `runTasks`: the machine with a stack of tasks and a stack of values.
- `evaluate`: the truth value of a strict formula under an assignment.
-/

namespace HashIf.Formula

/-! ## Strictness -/

/-- Whether all of the pending formulas are strict. -/
def allStrict (pending : List Formula) : Bool :=
  match pending with
  | [] => true
  | .const _ :: rest | .var _ :: rest => allStrict rest
  | .not f :: rest => allStrict (f :: rest)
  | .and l r :: rest | .or l r :: rest => allStrict (r :: l :: rest)
  | .lit _ :: _ | .kept _ _ _ :: _ | .emptyCall _ :: _ | .call _ _ :: _ | .unknown _ :: _ => false
termination_by sizes pending
decreasing_by
  all_goals simp only [sizes, size]
  all_goals omega

/-- Whether the formula is a propositional formula. -/
def isStrict (f : Formula) : Bool := allStrict [f]

/-! ## Evaluation -/

/-- Why a formula has no truth value. -/
inductive EvalFault where
  /-- A node outside the strict family, by the name of its kind. -/
  | notStrict (kind : String)
  /-- The stack of values held too few of them. -/
  | noValue
  deriving DecidableEq, Repr

/-- The text shown for a formula without truth value. -/
def EvalFault.message : EvalFault → String
  | notStrict kind => kind ++ " is not a Boolean formula and cannot be evaluated"
  | noValue => "the stack of values is empty"

/-- What the machine has left to do. -/
inductive Task where
  | visit (f : Formula)
  | negate
  | conjoin
  | disjoin

/-- A bound on the number of steps of a task. -/
def Task.weight : Task → Nat
  | visit f => 2 * f.size
  | _ => 1

/-- A bound on the number of steps of several tasks. -/
def tasksWeight : List Task → Nat
  | [] => 0
  | t :: ts => t.weight + tasksWeight ts

/-- Runs the tasks in order on a stack of values and leaves the stack of values. -/
def runTasks (σ : String → Bool) (tasks : List Task) (values : List Bool) :
    Except EvalFault (List Bool) :=
  match tasks with
  | [] => .ok values
  | .visit (.const b) :: rest => runTasks σ rest (b :: values)
  | .visit (.var name) :: rest => runTasks σ rest (σ name :: values)
  | .visit (.not f) :: rest => runTasks σ (.visit f :: .negate :: rest) values
  | .visit (.and l r) :: rest => runTasks σ (.visit l :: .visit r :: .conjoin :: rest) values
  | .visit (.or l r) :: rest => runTasks σ (.visit l :: .visit r :: .disjoin :: rest) values
  | .visit (.lit _) :: _ => .error (.notStrict "Literal")
  | .visit (.kept _ _ _) :: _ => .error (.notStrict "NonBooleanOperator")
  | .visit (.emptyCall _) :: _ | .visit (.call _ _) :: _ => .error (.notStrict "Macro")
  | .visit (.unknown _) :: _ => .error (.notStrict "str")
  | .negate :: rest =>
    match values with
    | v :: values => runTasks σ rest ((!v) :: values)
    | _ => .error .noValue
  | .conjoin :: rest =>
    match values with
    | right :: left :: values => runTasks σ rest ((left && right) :: values)
    | _ => .error .noValue
  | .disjoin :: rest =>
    match values with
    | right :: left :: values => runTasks σ rest ((left || right) :: values)
    | _ => .error .noValue
termination_by tasksWeight tasks
decreasing_by
  all_goals simp only [tasksWeight, Task.weight, size]
  all_goals omega

/-- The truth value of a formula under an assignment. -/
def evaluate (f : Formula) (σ : String → Bool) : Except EvalFault Bool :=
  match runTasks σ [.visit f] [] with
  | .error e => .error e
  | .ok (v :: _) => .ok v
  | .ok [] => .error .noValue

/-- The assignment that a list of names and values describes; other names are false. -/
def assignment (pairs : List (String × Bool)) (name : String) : Bool :=
  (pairs.lookup name).getD false

end HashIf.Formula
