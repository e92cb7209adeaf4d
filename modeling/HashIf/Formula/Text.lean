import HashIf.Formula

/-!
# `HashIf.Formula.Text`: a formula as a condition

Brackets are written only where precedence or the nesting to the left require them, and around an
operand of `!` that starts with a unary operator itself, so that the text reads back as the same
formula.  The left operands that need no brackets are walked through in a loop, and the text is
then put together from the innermost operand outwards.

## Contents
- `precedence`, `startsWithSign`: when an operand needs brackets.
- `Joint`, `spine`: the operators along the left edge.
- `toText`, `joinText`: the text of a formula.
-/

namespace HashIf.Formula

/-- The precedence of what cannot be torn apart. -/
def atomPrecedence : Nat := 100

/-- How tightly the outermost operator of a formula binds. -/
def precedence : Formula → Nat
  | or _ _ => Operator.boolOr.precedence
  | and _ _ => Operator.boolAnd.precedence
  | kept op _ _ => op.precedence
  | not _ => Operator.boolNot.precedence
  | _ => atomPrecedence

/-- Whether the text of a formula starts with a unary operator. -/
def startsWithSign : Formula → Bool
  | not _ => true
  | lit text => text.toList.head? == some '-'
  | _ => false

/-- A text between brackets if it needs them. -/
def bracketIf (needed : Bool) (text : String) : String := if needed then "(" ++ text ++ ")" else text

/-- A binary operator with what stands to the right of it. -/
structure Joint where
  symbol : String
  level : Nat
  right : Formula

/-- The left operand and the joint of a binary formula. -/
def joint? : Formula → Option (Formula × Joint)
  | and l r => some (l, ⟨Operator.boolAnd.symbol, Operator.boolAnd.precedence, r⟩)
  | or l r => some (l, ⟨Operator.boolOr.symbol, Operator.boolOr.precedence, r⟩)
  | kept op l r => some (l, ⟨op.symbol, op.precedence, r⟩)
  | _ => none

/-- The left operand of a joint has fewer nodes. -/
theorem size_of_joint? {f l : Formula} {j : Joint} (h : joint? f = some (l, j)) :
    l.size + j.right.size < f.size := by
  cases f with
  | and | or | kept =>
      simp only [joint?, Option.some.injEq, Prod.mk.injEq] at h
      obtain ⟨rfl, rfl⟩ := h
      simp only [size]
      omega
  | _ => simp [joint?] at h

/-- Walks down the left edge while no brackets are needed.  `joint` is the operator above `f` and
    `outer` are those above it; the result is the first operand, the operator behind it and the
    others from the inside outwards. -/
def spine (f : Formula) (joint : Joint) (outer : List Joint) : Formula × Joint × List Joint :=
  match _h : joint? f with
  | some (l, j) =>
    if joint.level ≤ j.level then spine l j (joint :: outer) else (f, joint, outer)
  | none => (f, joint, outer)
termination_by f.size
decreasing_by
  have := size_of_joint? _h
  omega

/-- A bound on the number of steps for joints. -/
def jointsWeight : List Joint → Nat
  | [] => 0
  | j :: js => 1 + j.right.size + jointsWeight js

/-- The walk down the left edge adds no nodes. -/
theorem spine_weight (f : Formula) (joint : Joint) (outer : List Joint) :
    (spine f joint outer).1.size
        + jointsWeight ((spine f joint outer).2.1 :: (spine f joint outer).2.2)
      ≤ f.size + jointsWeight (joint :: outer) := by
  fun_induction spine f joint outer with
  | case1 f joint outer l j h hle ih =>
      have := size_of_joint? h
      simp only [jointsWeight] at ih ⊢
      omega
  | case2 => exact Nat.le_refl _
  | case3 => exact Nat.le_refl _

mutual

/-- The text of a formula as a condition. -/
def toText (f : Formula) : Except UnknownNode String :=
  match f with
  | const b => .ok (if b then "1" else "0")
  | var name => .ok name
  | lit text => .ok text
  | emptyCall name => .ok (name ++ "()")
  | call name g => (fun t => name ++ "(" ++ t ++ ")") <$> toText g
  | not g =>
    (fun t => "!" ++ bracketIf
      (g.precedence < Operator.boolNot.precedence || g.startsWithSign) t) <$> toText g
  | and l r => chainText l ⟨Operator.boolAnd.symbol, Operator.boolAnd.precedence, r⟩
  | or l r => chainText l ⟨Operator.boolOr.symbol, Operator.boolOr.precedence, r⟩
  | kept op l r => chainText l ⟨op.symbol, op.precedence, r⟩
  | unknown text => .error ⟨text⟩
termination_by 2 * f.size
decreasing_by
  all_goals simp only [size]
  all_goals omega

/-- The text of a binary formula, given by its left operand and its joint. -/
def chainText (left : Formula) (joint : Joint) : Except UnknownNode String :=
  let s := spine left joint []
  match toText s.1 with
  | .error e => .error e
  | .ok t => joinText (bracketIf (s.1.precedence < s.2.1.level) t) (s.2.1 :: s.2.2)
termination_by 2 * (left.size + joint.right.size) + 1
decreasing_by
  · have h := spine_weight left joint []
    have := size_pos (spine left joint []).2.1.right
    simp only [jointsWeight] at h
    omega
  · have h := spine_weight left joint []
    have := size_pos (spine left joint []).1
    simp only [jointsWeight] at h ⊢
    omega

/-- Puts the right operands behind the text of the left operand, from the inside outwards. -/
def joinText (left : String) (joints : List Joint) : Except UnknownNode String :=
  match joints with
  | [] => .ok left
  | j :: js =>
    match toText j.right with
    | .error e => .error e
    | .ok t =>
      -- An operand to the right of its own level would bind to the left without brackets.
      joinText (left ++ " " ++ j.symbol ++ " " ++ bracketIf (j.right.precedence ≤ j.level) t) js
termination_by 2 * jointsWeight joints
decreasing_by
  · simp only [jointsWeight]
    omega
  · simp only [jointsWeight]
    omega

end

end HashIf.Formula
