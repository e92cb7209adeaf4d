import HashIf.Condition.Chain
import HashIf.Condition.ConfigTest

/-!
# `HashIf.Condition.Extended`: conditions with everything kept

Configuration tests, `!`, `&&` and `||` are read as in a propositional formula.  All else stays:
variables are variables, numbers are literals, other operators and calls are kept.

## Contents
- `joinKept`: the formula that a binary operator makes of its operands.
- `extended`, `extendedJoints`: the formula of a tree.
-/

namespace HashIf.Condition

/-- The formula that a binary operator makes of its operands. -/
def joinKept (op : Operator) (left right : Formula) : Formula :=
  match op with
  | .boolAnd => .and left right
  | .boolOr => .or left right
  | op => .kept op left right

/-- A number with a minus in front. -/
def negativeLiteral (v : Number) : Formula := .lit ("-" ++ v.plain)

mutual

/-- The extended formula of a tree, or the leftmost part that has none. -/
def extended (linux : Bool) (e : Expr) : Except LocatedFault Formula :=
  match e with
  | .emptyCall name pos =>
    match ConfigTest.ofName? linux name with
    | some t => t.formula <$> testedVariable name none pos
    | none => .ok (.emptyCall name)
  | .call name a pos =>
    match ConfigTest.ofName? linux name with
    | some t => t.formula <$> testedVariable name (some a) pos
    | none => .call name <$> extended linux a
  | .var x _ => .ok (.var x)
  | .num v _ => .ok (.lit v.plain)
  | .unary op a pos =>
    if op = .boolNot then .not <$> extended linux a
    else match negatedNumber? op a with
      | some v => .ok (negativeLiteral v)
      | none => .error ⟨.unsupportedOperator op, pos⟩
  | .binary op l r _ =>
    if op = .boolNot then .not <$> extended linux l
    else match negatedNumber? op l with
      | some v => .ok (negativeLiteral v)
      | none =>
        let c := chain (fun _ => true) l [⟨op, r⟩]
        match extended linux c.1 with
        | .error f => .error f
        | .ok first => extendedJoints linux first c.2
  | .mark op pos =>
    if op = .boolNot then .error ⟨.missingOperand op, pos⟩
    else .error ⟨.unsupportedOperator op, pos⟩
  | .group items pos => .error ⟨.unexpectedNode (Expr.group items pos).text, pos⟩
termination_by e.size
decreasing_by
  · simp only [Expr.size]
    omega
  · simp only [Expr.size]
    omega
  · simp only [Expr.size]
    omega
  · have := chain_fst_size_le (fun _ => true) l [⟨op, r⟩]
    simp only [Expr.size]
    omega
  · exact chain_joints_size_lt (fun _ => true) op l r _

/-- Joins a chain from the left, starting with the formula of its first operand. -/
def extendedJoints (linux : Bool) (left : Formula) (joints : List Joint) :
    Except LocatedFault Formula :=
  match joints with
  | [] => .ok left
  | j :: js =>
    match extended linux j.right with
    | .error f => .error f
    | .ok right => extendedJoints linux (joinKept j.op left right) js
termination_by jointsSize joints
decreasing_by
  all_goals simp only [jointsSize]
  all_goals omega

end

end HashIf.Condition
