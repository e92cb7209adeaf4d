import HashIf.CallStack
import HashIf.Condition.Extended
import HashIf.Condition.Strict

/-!
# `HashIf.Condition.Frames`: the frames that making a formula needs

Each node that is visited takes a call, operators and calls take one more, and the loop along the left
edge of a chain a third one.  The operands of a chain are visited from that loop, so the first operand of a
chain needs no more if it is a chain itself.  The counts go up to the first part that has no formula.  They
are for the trees of texts, whose binary nodes hold binary operators.

## Contents
- `edgeFrames`: the first operand of a chain.
- `strictFrames`: the frames of `strict`.
- `extendedFrames`: the frames of `extended`.
-/

namespace HashIf.Condition

/-- The frames of the first operand of a chain, those of the loop included; `n` are the frames of the
    operand on its own.  Operators that satisfy `joins` go on with the same loop. -/
def edgeFrames (joins : Operator → Bool) (operand : Expr) (n : Nat) : Nat :=
  match operand with
  | .binary op _ _ _ => if joins op then n else 3 + n
  | _ => 3 + n

theorem edgeFrames_le (joins : Operator → Bool) (operand : Expr) (n : Nat) :
    edgeFrames joins operand n ≤ 3 + n := by
  cases operand with
  | binary op l r pos =>
      simp only [edgeFrames]
      split <;> omega
  | _ => exact Nat.le_refl _

/-- The frames that the propositional formula of a tree needs. -/
def strictFrames (o : Options) : Expr → Nat
  | .var _ _ | .num _ _ | .group _ _ => 1
  | .emptyCall _ _ | .call _ _ _ | .mark _ _ => 2
  | .unary op a _ => if op = .boolNot then 2 + strictFrames o a else 2
  | .binary op l r _ =>
    if op.isConnective then
      framesInTurn (strict o l) (edgeFrames Operator.isConnective l (strictFrames o l))
        (3 + strictFrames o r)
    else 2

/-- The frames that the extended formula of a tree needs. -/
def extendedFrames (linux : Bool) : Expr → Nat
  | .var _ _ | .num _ _ | .group _ _ => 1
  | .emptyCall _ _ | .mark _ _ => 2
  | .call name a _ =>
    match ConfigTest.ofName? linux name with
    | some _ => 2
    | none => 2 + extendedFrames linux a
  | .unary op a _ => if op = .boolNot then 2 + extendedFrames linux a else 2
  | .binary _ l r _ =>
    framesInTurn (extended linux l) (edgeFrames (fun _ => true) l (extendedFrames linux l))
      (3 + extendedFrames linux r)

end HashIf.Condition
