import HashIf.Condition.Chain
import HashIf.Condition.ConfigTest
import HashIf.Condition.Options

/-!
# `HashIf.Condition.Strict`: conditions as propositional formulas

Configuration tests, numbers, `!`, `&&` and `||` have a Boolean reading of their own.  If the
options ask for it, a comparison of a variable with a number or another variable is encoded as a
variable whose name spells the comparison out, such as `A_eq_2`, and a bare variable `A` as
`A_ne_0`.

## Contents
- `relation`, `swapped`, `valueSuffix`: the names of comparisons.
- `encodeComparison`: the variable that stands for a comparison.
- `strict`, `strictJoints`: the formula of a tree.
-/

namespace HashIf.Condition

/-- The part of a name that spells a comparison out. -/
def relation : Operator → String
  | .eq => "_eq_"
  | .ne => "_ne_"
  | .lt => "_lt_"
  | .le => "_le_"
  | .gt => "_gt_"
  | .ge => "_ge_"
  | _ => ""

/-- The comparison with its sides exchanged. -/
def swapped : Operator → Operator
  | .lt => .gt
  | .le => .ge
  | .gt => .lt
  | .ge => .le
  | op => op

/-- A number as a part of a name: its point is replaced by an underscore. -/
def valueSuffix (v : Number) : String :=
  String.ofList (v.plain.toList.map fun c => if c == '.' then '_' else c)

/-- The name of a bare variable that is used as a truth value. -/
def nonzeroName (x : String) : String := x ++ "_ne_0"

/-- The name of the variable that stands for a comparison, if its sides allow one. -/
def comparisonName? (op : Operator) : Option Expr → Option Expr → Option String
  | some (.var x _), some (.num v _) => some (x ++ relation op ++ valueSuffix v)
  | some (.num v _), some (.var x _) => some (x ++ relation (swapped op) ++ valueSuffix v)
  | some (.var x _), some (.var y _) => some (x ++ relation op ++ y)
  | _, _ => none

/-- The variable that stands for a comparison at `pos`. -/
def encodeComparison (fuzzy : Bool) (op : Operator) (left right : Option Expr)
    (pos : Option Int) : Except LocatedFault Formula :=
  if !fuzzy then .error ⟨.comparisonNotEncoded op, pos⟩
  else match comparisonName? op left right with
    | some name => .ok (.var name)
    | none => .error ⟨.incomparable, pos⟩

/-- A number as a truth value: everything but zero is true. -/
def truth (v : Number) : Formula := .const (!v.isZero)

/-- The formula of a call. -/
def strictCall (o : Options) (name : String) (argument : Option Expr) (pos : Option Int) :
    Except LocatedFault Formula :=
  match testFormula o.linux name argument pos with
  | .error f => .error f
  | .ok none => .error ⟨.unsupportedCall name, pos⟩
  | .ok (some f) => .ok f

/-- The formula that a connective joins two formulas into. -/
def connect (op : Operator) (left right : Formula) : Formula :=
  match op with
  | .boolAnd => .and left right
  | _ => .or left right

mutual

/-- The propositional formula of a tree, or the leftmost part that has none. -/
def strict (o : Options) (e : Expr) : Except LocatedFault Formula :=
  match e with
  | .emptyCall name pos => strictCall o name none pos
  | .call name a pos => strictCall o name (some a) pos
  | .var x pos =>
    if o.fuzzy then .ok (.var (nonzeroName x)) else .error ⟨.bareVariable x, pos⟩
  | .num v _ => .ok (truth v)
  | .binary op l r pos =>
    if op.isConnective then
      let c := chain Operator.isConnective l [⟨op, r⟩]
      match strict o c.1 with
      | .error f => .error f
      | .ok first => strictJoints o first c.2
    else if op = .boolNot then .not <$> strict o l
    else if op.isComparison then encodeComparison o.fuzzy op (some l) (some r) pos
    else match negatedNumber? op l with
      | some v => .ok (truth v)
      | none => .error ⟨.unsupportedOperator op, pos⟩
  -- A connective or a comparison with one operand occurs only in trees that no text gave.
  | .unary op a pos =>
    if op.isConnective then
      match strict o a with
      | .error f => .error f
      | .ok _ => .error ⟨.missingOperand op, pos⟩
    else if op = .boolNot then .not <$> strict o a
    else if op.isComparison then encodeComparison o.fuzzy op (some a) none pos
    else match negatedNumber? op a with
      | some v => .ok (truth v)
      | none => .error ⟨.unsupportedOperator op, pos⟩
  | .mark op pos =>
    if op.isConnective || op = .boolNot then .error ⟨.missingOperand op, pos⟩
    else if op.isComparison then encodeComparison o.fuzzy op none none pos
    else .error ⟨.unsupportedOperator op, pos⟩
  | .group items pos => .error ⟨.unexpectedNode (Expr.group items pos).text, pos⟩
termination_by e.size
decreasing_by
  · have := chain_fst_size_le Operator.isConnective l [⟨op, r⟩]
    simp only [Expr.size]
    omega
  · exact chain_joints_size_lt Operator.isConnective op l r pos
  all_goals simp only [Expr.size]
  all_goals omega

/-- Joins a chain from the left, starting with the formula of its first operand. -/
def strictJoints (o : Options) (left : Formula) (joints : List Joint) :
    Except LocatedFault Formula :=
  match joints with
  | [] => .ok left
  | j :: js =>
    match strict o j.right with
    | .error f => .error f
    | .ok right => strictJoints o (connect j.op left right) js
termination_by jointsSize joints
decreasing_by
  all_goals simp only [jointsSize]
  all_goals omega

end

end HashIf.Condition
