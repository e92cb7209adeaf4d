import HashIf.Expr

/-!
# `HashIf.Expr.Calls`: names followed by their argument

A name directly in front of a group is a call, and `defined` in front of a name is a call of that
name.  Inner groups are treated before the group around them.

## Contents
- `callOf`: a call with the items of its brackets.
- `mergeCalls`: the scan of one list of items.
- `detectCalls`: the scan of every group.
-/

namespace HashIf.Expr

/-- The name of the test that takes its argument with or without brackets. -/
def definedName : String := "defined"

/-- A call: empty brackets give no argument, a single item is the argument, and more items are
    kept as a group. -/
def callOf (name : String) (pos : Option Int) (items : List Expr) (groupPos : Option Int) : Expr :=
  match items with
  | [] => .emptyCall name pos
  | [e] => .call name e pos
  | es => .call name (.group es groupPos) pos

/-- Joins every name with the argument behind it, from left to right. -/
def mergeCalls : List Expr → List Expr
  | .var n p :: .group items q :: rest => callOf n p items q :: mergeCalls rest
  | .var n p :: .var m q :: rest =>
    if n == definedName then .call n (.var m q) p :: mergeCalls rest
    else .var n p :: mergeCalls (.var m q :: rest)
  | e :: rest => e :: mergeCalls rest
  | [] => []

mutual

/-- The expression with all calls of its groups joined, the inner groups first. -/
def detectCalls : Expr → Expr
  | .group items p => .group (mergeCalls (detectItems items)) p
  | e => e

/-- `detectCalls` for each item of a group. -/
def detectItems : List Expr → List Expr
  | [] => []
  | e :: es => detectCalls e :: detectItems es

end

end HashIf.Expr
