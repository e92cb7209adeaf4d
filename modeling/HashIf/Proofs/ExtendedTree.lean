import HashIf.Condition.Extended
import HashIf.Proofs.Grammar

/-!
# `HashIf.Proofs.ExtendedTree`: the extended formula, operator by operator

The extended reading goes down the left edge of a tree in a loop and comes back through the right
operands.  On trees whose binary nodes hold binary operators this is the plain recursion: the formula of
a binary node is made of the formulas of its two operands.  The trees of derivations are such trees.

## Contents
- `LeftEdge`: the binary nodes along the left edge hold binary operators.
- `extended_chain`: the loop down the left edge leaves the result alone.
- `extended_binary`: the formula of a binary node.
- `Derivation.leftEdge_tree`.
-/

namespace HashIf

/-- The binary nodes along the left edge of a tree hold binary operators. -/
def LeftEdge : Expr → Prop
  | .binary op l _ _ => op.isUnary = false ∧ LeftEdge l
  | _ => True

/-- The trees of derivations have binary operators in their binary nodes. -/
theorem Derivation.leftEdge_tree {k : Nat} (d : Derivation k) : LeftEdge d.tree := by
  induction d with
  | brackets p d q ih => exact ih
  | tighter hk d ih => exact ih
  | join l p op hop hk r ihl ihr => exact ⟨hop, ihl⟩
  | _ => trivial

namespace Condition

theorem negatedNumber?_of_binary {op : Operator} (hop : op.isUnary = false) (e : Expr) :
    negatedNumber? op e = none := by
  cases op with
  | minus => cases hop
  | _ => rfl

theorem negatedNumber?_eq_some {op : Operator} {e : Expr} {v : Number}
    (h : negatedNumber? op e = some v) : op = .minus ∧ ∃ p, e = .num v p := by
  unfold negatedNumber? at h
  split at h
  · cases h
    exact ⟨rfl, _, rfl⟩
  · cases h

/-- A test is about a bare variable. -/
theorem testedVariable_eq_ok {name x : String} {argument : Option Expr} {pos : Option Int}
    (h : testedVariable name argument pos = .ok x) : ∃ q, argument = some (.var x q) := by
  unfold testedVariable at h
  split at h
  · cases h
  · cases h
    exact ⟨_, rfl⟩
  · cases h

/-- What a sequence of two results holds. -/
theorem bind_eq_ok {ε α β : Type} {x : Except ε α} {g : α → Except ε β} {y : β}
    (h : x.bind g = .ok y) : ∃ a, x = .ok a ∧ g a = .ok y := by
  cases x with
  | error e => cases h
  | ok a => exact ⟨a, rfl, h⟩

/-- One step of the extended reading at a binary node. -/
theorem extended_eq_chain (linux : Bool) {op : Operator} (hop : op.isUnary = false) (l r : Expr)
    (pos : Option Int) :
    extended linux (.binary op l r pos)
      = (extended linux (chain (fun _ => true) l [⟨op, r⟩]).1).bind
          (extendedJoints linux · (chain (fun _ => true) l [⟨op, r⟩]).2) := by
  have hne : op ≠ .boolNot := by
    rintro rfl
    cases hop
  rw [extended, if_neg hne, negatedNumber?_of_binary hop]
  dsimp only
  cases extended linux (chain (fun _ => true) l [⟨op, r⟩]).1 <;> rfl

theorem extendedJoints_cons (linux : Bool) (left : Formula) (j : Joint) (js : List Joint) :
    extendedJoints linux left (j :: js)
      = (extended linux j.right).bind fun right => extendedJoints linux (joinKept j.op left right) js := by
  rw [extendedJoints]
  cases extended linux j.right <;> rfl

/-- **The loop down the left edge leaves the result alone.** -/
theorem extended_chain (linux : Bool) {e : Expr} (he : LeftEdge e) (outer : List Joint) :
    (extended linux (chain (fun _ => true) e outer).1).bind
        (extendedJoints linux · (chain (fun _ => true) e outer).2)
      = (extended linux e).bind (extendedJoints linux · outer) := by
  induction e generalizing outer with
  | binary op l r pos ihl =>
      obtain ⟨hop, hl⟩ := he
      -- The hypothesis is used twice: for the joints above the node, and for the node on its own.
      rw [chain, if_pos rfl, ihl hl, extended_eq_chain linux hop, ihl hl]
      cases extended linux l with
      | error f => rfl
      | ok left =>
          show extendedJoints linux left (⟨op, r⟩ :: outer)
            = (extendedJoints linux left [⟨op, r⟩]).bind (extendedJoints linux · outer)
          rw [extendedJoints_cons, extendedJoints_cons]
          cases extended linux r with
          | error f => rfl
          | ok right =>
              show _ = (extendedJoints linux (joinKept op left right) []).bind _
              rw [extendedJoints]
              rfl
  | _ => rfl

/-- **The formula of a binary node** is made of the formulas of its operands, the left one first. -/
theorem extended_binary (linux : Bool) {op : Operator} (hop : op.isUnary = false) {l : Expr}
    (hl : LeftEdge l) (r : Expr) (pos : Option Int) :
    extended linux (.binary op l r pos)
      = (extended linux l).bind fun left =>
          (extended linux r).bind fun right => .ok (joinKept op left right) := by
  rw [extended_eq_chain linux hop, extended_chain linux hl]
  cases extended linux l with
  | error f => rfl
  | ok left =>
      show extendedJoints linux left [⟨op, r⟩] = _
      rw [extendedJoints_cons]
      cases extended linux r with
      | error f => rfl
      | ok right =>
          show extendedJoints linux (joinKept op left right) [] = _
          rw [extendedJoints]
          rfl

end Condition

end HashIf
