import HashIf.Expr

/-!
# `HashIf.Condition.Chain`: the left edge of a tree

A long chain of binary operators nests to the left.  Interpreters walk down the left edge in a
loop and then go through the right operands from the inside outwards.

## Contents
- `Expr.size`: the number of nodes that an interpreter visits.
- `negatedNumber?`: a minus in front of a number.
- `Joint`, `chain`: the operators along the left edge that satisfy a test.
-/

namespace HashIf

/-- The number of nodes outside of groups. -/
def Expr.size : Expr → Nat
  | .unary _ e _ | .call _ e _ => 1 + e.size
  | .binary _ l r _ => 1 + l.size + r.size
  | _ => 1

/-- Every tree has a node. -/
theorem Expr.size_pos (e : Expr) : 0 < e.size := by
  cases e <;> simp only [Expr.size] <;> omega

namespace Condition

/-- The number that a minus stands in front of. -/
def negatedNumber? : Operator → Expr → Option Number
  | .minus, .num v _ => some v
  | _, _ => none

/-- A binary operator with its right operand. -/
structure Joint where
  op : Operator
  right : Expr

/-- The first operand of the chain that starts at `e`, and the operators of the chain from the
    inside outwards, in front of `outer`.  The chain goes on as long as operators satisfy
    `joins`. -/
def chain (joins : Operator → Bool) (e : Expr) (outer : List Joint) : Expr × List Joint :=
  match e with
  | .binary op l r _ => if joins op then chain joins l (⟨op, r⟩ :: outer) else (e, outer)
  | _ => (e, outer)

/-- A bound on the number of steps for joints. -/
def jointsSize : List Joint → Nat
  | [] => 0
  | j :: js => 1 + j.right.size + jointsSize js

/-- The walk down the left edge adds no nodes. -/
theorem chain_size (joins : Operator → Bool) (e : Expr) (outer : List Joint) :
    (chain joins e outer).1.size + jointsSize (chain joins e outer).2
      ≤ e.size + jointsSize outer := by
  fun_induction chain joins e outer with
  | case1 outer op l r p h ih =>
      simp only [jointsSize, Expr.size] at ih ⊢
      omega
  | case2 => exact Nat.le_refl _
  | case3 => exact Nat.le_refl _

/-- The first operand of a chain is part of it. -/
theorem chain_fst_size_le (joins : Operator → Bool) (e : Expr) (outer : List Joint) :
    (chain joins e outer).1.size ≤ e.size := by
  fun_induction chain joins e outer with
  | case1 outer op l r p h ih =>
      simp only [Expr.size]
      omega
  | case2 => exact Nat.le_refl _
  | case3 => exact Nat.le_refl _

/-- The right operands of a chain have fewer nodes than the chain. -/
theorem chain_joints_size_lt (joins : Operator → Bool) (op : Operator) (l r : Expr)
    (pos : Option Int) :
    jointsSize (chain joins l [⟨op, r⟩]).2 < (Expr.binary op l r pos).size := by
  have h := chain_size joins l [⟨op, r⟩]
  have := Expr.size_pos (chain joins l [⟨op, r⟩]).1
  simp only [jointsSize, Expr.size] at h ⊢
  omega

end Condition

end HashIf
