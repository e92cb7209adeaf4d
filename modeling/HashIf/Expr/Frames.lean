import HashIf.CallStack
import HashIf.Expr.Calls
import HashIf.Expr.Resolve

/-!
# `HashIf.Expr.Frames`: the frames that binding operators needs

Joining calls opens a call for each expression and one more for the items of a group.  Binding operators
opens a call for each expression, one for each list, and one more for the operators of a list that are
bound together.  So brackets cost frames, and so does every operator that is bound inside the operand of
another one; only the operators of one chain share their frames.

## Contents
- `joinFrames`, `joinItemsFrames`: the frames of `detectCalls`.
- `resolveFrames`, `itemsFrames`, `linksFrames`: the frames of `resolve`, up to its first fault.
- `bindingFrames`: the frames of both.
-/

namespace HashIf.Expr

mutual

/-- The frames that joining the calls of an expression needs. -/
def joinFrames : Expr → Nat
  | .group items _ => 2 + joinItemsFrames items
  | _ => 1

/-- The frames that joining the calls of each of the items needs. -/
def joinItemsFrames : List Expr → Nat
  | [] => 0
  | e :: es => max (joinFrames e) (joinItemsFrames es)

end

mutual

/-- The frames that binding the operators of an expression needs. -/
def resolveFrames (e : Expr) : Nat :=
  match e with
  | .group items _ => 1 + itemsFrames items
  | .call _ a _ => 1 + resolveFrames a
  | _ => 1
termination_by weight e
decreasing_by
  all_goals simp only [weight]
  all_goals omega

/-- The frames that binding the operators of a list needs.  An operator without operands ends the
    recursion, and so does the first operand that has no tree. -/
def itemsFrames (items : List Expr) : Nat :=
  match items with
  | [] => 1
  | [e] => 1 + resolveFrames e
  | e₁ :: e₂ :: es =>
    let all := e₁ :: e₂ :: es
    match _h : rootOf all with
    | none => 1
    | some root =>
      if root.op.isUnary then
        if root.index = 0 then 2 + itemsFrames (e₂ :: es)
        else if root.op.followsOperand && root.index = es.length + 1 then 2 + itemsFrames all.dropLast
        else 2
      else
        let parts := splitAtLevel root.op.precedence all
        match emptySide? parts.1 parts.2 with
        | some _ => 2
        | none =>
          2 + framesInTurn (resolveItems parts.1 (parts.2.head?.bind Link.pos))
            (itemsFrames parts.1) (linksFrames parts.2)
termination_by itemsWeight items
decreasing_by
  · simp only [itemsWeight]
    omega
  · simp only [itemsWeight]
    omega
  · exact itemsWeight_dropLast_lt e₁ (e₂ :: es)
  · exact splitAtRoot_weight_lt _h
  · exact linksWeight_splitAtLevel_lt root.op.precedence e₁ (e₂ :: es)

/-- The frames that the right operands of a chain need. -/
def linksFrames (links : List Link) : Nat :=
  match links with
  | [] => 0
  | l :: ls => framesInTurn (resolveItems l.items l.pos) (itemsFrames l.items) (linksFrames ls)
termination_by linksWeight links
decreasing_by
  all_goals simp only [linksWeight]
  all_goals omega

end

/-- The frames that it takes to join the calls of nested groups and then to bind their operators. -/
def bindingFrames (nested : Expr) : Nat :=
  1 + max (joinFrames nested) (resolveFrames (detectCalls nested))

end HashIf.Expr
