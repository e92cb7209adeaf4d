import HashIf.Formula.Text
import HashIf.Proofs.Costs

/-!
# `HashIf.Proofs.Rendering`: the text of a formula, operator by operator

The text of a chain of operators is put together in a loop along the left edge.  What comes out is the
plain recursion: the texts of both operands, each in brackets if the operator binds tighter than it.
Which operands get brackets is told by one number, the level of the grammar that the text of the operand
stands at: an operand gets brackets exactly if it stands below the level that its place asks for.

## Contents
- `toText_spine`, `toText_of_joint?`: the text of a binary formula.
- `level`, `precedence_lt_iff`, `needsBrackets_iff`: brackets as a comparison of levels.
- `toText_joint`, `toText_not`, `toText_call`: the texts of formulas with operands.
- `cost`, `readFrames`: what it takes to read a text.
-/

namespace HashIf.Formula

/-! ## Chains -/

/-- The text behind a left operand: the operator and the right operand. -/
def Joint.append (left : String) (j : Joint) (right : String) : String :=
  left ++ " " ++ j.symbol ++ " " ++ bracketIf (j.right.precedence ≤ j.level) right

theorem toText_eq_chainText {f l : Formula} {j : Joint} (h : joint? f = some (l, j)) :
    toText f = chainText l j ∧ f.precedence = j.level := by
  cases f with
  | and | or | kept =>
      simp only [joint?, Option.some.injEq, Prod.mk.injEq] at h
      obtain ⟨rfl, rfl⟩ := h
      exact ⟨by rw [toText], rfl⟩
  | _ => cases h

theorem joinText_cons (left : String) (j : Joint) (js : List Joint) :
    joinText left (j :: js)
      = (toText j.right).bind fun right => joinText (j.append left right) js := by
  rw [joinText]
  cases toText j.right <;> rfl

theorem chainText_eq (l : Formula) (j : Joint) :
    chainText l j = (toText (spine l j []).1).bind fun t =>
      joinText (bracketIf ((spine l j []).1.precedence < (spine l j []).2.1.level) t)
        ((spine l j []).2.1 :: (spine l j []).2.2) := by
  rw [chainText]
  cases toText (spine l j []).1 <;> rfl

/-- **The loop down the left edge leaves the text alone.**  The induction is on the size of the operand,
    for all joints above it at once: the text of the operand is itself the text of a chain. -/
theorem toText_spine (f : Formula) (joint : Joint) (outer : List Joint) :
    ((toText (spine f joint outer).1).bind fun t =>
        joinText (bracketIf ((spine f joint outer).1.precedence < (spine f joint outer).2.1.level) t)
          ((spine f joint outer).2.1 :: (spine f joint outer).2.2))
      = (toText f).bind fun t => joinText (bracketIf (f.precedence < joint.level) t) (joint :: outer) := by
  induction hsize : f.size using Nat.strongRecOn generalizing f joint outer with
  | ind n ih =>
      rw [spine]
      split
      · rename_i l j hj
        split
        · rename_i hle
          have hlt : l.size < n := by
            have := size_of_joint? hj
            omega
          obtain ⟨htext, hprec⟩ := toText_eq_chainText hj
          -- The walk goes on only below an operand that needs no brackets.
          have hbare : decide (f.precedence < joint.level) = false := by
            rw [hprec, decide_eq_false_iff_not]
            omega
          rw [ih _ hlt l j (joint :: outer) rfl, htext, chainText_eq, ih _ hlt l j [] rfl, hbare]
          cases toText l with
          | error e => rfl
          | ok t =>
              show joinText _ (j :: joint :: outer) = (joinText _ [j]).bind _
              rw [joinText_cons, joinText_cons]
              cases toText j.right with
              | error e => rfl
              | ok t' =>
                  show _ = (joinText _ []).bind _
                  rw [joinText.eq_1]
                  rfl
        · rfl
      · rfl

/-- **The text of a binary formula** is made of the texts of its operands, the left one first. -/
theorem toText_of_joint? {f l : Formula} {j : Joint} (h : joint? f = some (l, j)) :
    toText f = (toText l).bind fun t => (toText j.right).bind fun t' =>
      .ok (j.append (bracketIf (l.precedence < j.level) t) t') := by
  rw [(toText_eq_chainText h).1, chainText_eq, toText_spine]
  cases toText l with
  | error e => rfl
  | ok t =>
      show joinText _ [j] = _
      rw [joinText_cons]
      cases toText j.right with
      | error e => rfl
      | ok t' =>
          show joinText _ [] = _
          rw [joinText]
          rfl

/-! ## Levels -/

/-- The level of the grammar that the text of a formula stands at. -/
def level : Formula → Nat
  | or _ _ => Operator.boolOr.precedence
  | and _ _ => Operator.boolAnd.precedence
  | kept op _ _ => op.precedence
  | not _ => 11
  | lit text => if text.toList.head? = some '-' then 11 else 12
  | _ => 12

theorem precedence_lt_iff (f : Formula) {m : Nat} (hm : m ≤ 11) : f.precedence < m ↔ f.level < m := by
  cases f with
  | lit text =>
      simp only [precedence, level, atomPrecedence]
      split <;> omega
  | _ => simp only [precedence, level, atomPrecedence, Operator.precedence] <;> omega

/-- What stands behind `!` is in brackets unless it is a primary. -/
theorem needsBrackets_iff {f : Formula} (hf : ∀ op l r, f = kept op l r → op.isUnary = false) :
    (decide (f.precedence < Operator.boolNot.precedence) || f.startsWithSign)
      = decide (f.level < 12) := by
  cases f with
  | kept op l r =>
      have hprec : op.precedence ≤ 10 := Operator.precedence_of_binary (hf op l r rfl)
      show (decide (op.precedence < 11) || false) = decide (op.precedence < 12)
      rw [decide_eq_true (show op.precedence < 11 by omega),
        decide_eq_true (show op.precedence < 12 by omega)]
      rfl
  | lit text =>
      simp only [precedence, startsWithSign, level, atomPrecedence, Operator.precedence]
      by_cases hsign : text.toList.head? = some '-'
      · simp [hsign]
      · simp [hsign]
  | _ => rfl

/-- The text of an operand at a place that asks for level `m`. -/
def operandText (m : Nat) (f : Formula) (text : String) : String := bracketIf (f.level < m) text

/-- The operator and its operands, with brackets by level. -/
theorem append_eq_operandText (l : Formula) {j : Joint} (hj : j.level ≤ 10) (t t' : String) :
    j.append (bracketIf (l.precedence < j.level) t) t'
      = operandText j.level l t ++ " " ++ j.symbol ++ " " ++ operandText (j.level + 1) j.right t' := by
  have hright : j.right.precedence ≤ j.level ↔ j.right.level < j.level + 1 := by
    rw [← Nat.lt_succ_iff]
    exact precedence_lt_iff j.right (by omega)
  unfold Joint.append operandText
  simp only [precedence_lt_iff l (show j.level ≤ 11 by omega), hright]

theorem toList_operandText (m : Nat) (f : Formula) (text : String) :
    (operandText m f text).toList
      = if f.level < m then '(' :: (text.toList ++ [')']) else text.toList := by
  unfold operandText bracketIf
  simp only [decide_eq_true_eq]
  split
  · rw [String.toList_append, String.toList_append]
    rfl
  · rfl

/-- **The text of a binary formula**, character by character. -/
theorem toText_joint {f l r : Formula} {op : Operator} (hop : op.isUnary = false)
    (hjoint : joint? f = some (l, ⟨op.symbol, op.precedence, r⟩)) {t t' : String}
    (hl : l.toText = .ok t) (hr : r.toText = .ok t') :
    ∃ s, f.toText = .ok s ∧ s.toList = (operandText op.precedence l t).toList
      ++ ' ' :: (op.symbolChars ++ ' ' :: (operandText (op.precedence + 1) r t').toList) := by
  have hprec := Operator.precedence_of_binary hop
  refine ⟨operandText op.precedence l t ++ " " ++ op.symbol ++ " "
    ++ operandText (op.precedence + 1) r t', ?_, ?_⟩
  · rw [toText_of_joint? hjoint, hl]
    show (toText r).bind _ = _
    rw [hr]
    exact congrArg Except.ok (@append_eq_operandText l ⟨op.symbol, op.precedence, r⟩ hprec t t')
  · simp only [String.toList_append, Operator.symbol, String.toList_ofList, List.append_assoc]
    rfl

/-- The text of a negation.  Brackets behind `!` depend on precedence and on the first character; the level
    has both. -/
theorem toText_not {f : Formula} (hf : ∀ op l r, f = kept op l r → op.isUnary = false) {t : String}
    (ht : f.toText = .ok t) :
    ∃ s, (not f).toText = .ok s ∧ s.toList = '!' :: (operandText 12 f t).toList := by
  refine ⟨"!" ++ operandText 12 f t, ?_, ?_⟩
  · rw [toText, ht, needsBrackets_iff hf]
    rfl
  · rw [String.toList_append]
    rfl

/-- The text of a call. -/
theorem toText_call (name : String) {f : Formula} {t : String} (ht : f.toText = .ok t) :
    ∃ s, (call name f).toText = .ok s ∧ s.toList = name.toList ++ '(' :: (t.toList ++ [')']) := by
  refine ⟨name ++ "(" ++ t ++ ")", ?_, ?_⟩
  · rw [toText, ht]
    rfl
  · simp only [String.toList_append, List.append_assoc]
    rfl

/-! ## Costs of texts -/

/-- The brackets around an operand at a place that asks for level `m`. -/
def bracketCost (m : Nat) (f : Formula) : Nat := if f.level < m then 1 else 0

/-- The cost of an operand at a place that asks for level `m`, where `c` is its cost without brackets. -/
def operandCost (m : Nat) (f : Formula) (c : Cost) : Cost := if f.level < m then c.brackets else c

/-- What the text of a formula costs the parser. -/
def cost : Formula → Cost
  | const _ | var _ | unknown _ => .atom
  | lit text => if text.toList.head? = some '-' then Cost.atom.unary else .atom
  | emptyCall _ => .emptyCall
  | call _ f => f.cost.call
  | not f => (operandCost 12 f f.cost).unary
  | and l r => joinCost .boolAnd l l.cost r r.cost
  | or l r => joinCost .boolOr l l.cost r r.cost
  | kept op l r => joinCost op l l.cost r r.cost
where
  /-- The cost of an operator with operands of given costs. -/
  joinCost (op : Operator) (l : Formula) (c : Cost) (r : Formula) (c' : Cost) : Cost :=
    Cost.join op.precedence (operandCost op.precedence l c) (operandCost (op.precedence + 1) r c')

/-- The frames of the first operand of a chain, those of the loop included; `n` are the frames of the
    operand on its own. -/
def edgeFrames (f : Formula) (n : Nat) : Nat :=
  match f with
  | and _ _ | or _ _ | kept _ _ _ => n
  | _ => 3 + n

/-- The frames that it takes to make the formula of its text. -/
def readFrames : Formula → Nat
  | const _ | var _ | unknown _ => 1
  | lit text => if text.toList.head? = some '-' then 2 else 1
  | emptyCall _ => 2
  | call _ f => 2 + f.readFrames
  | not f => 2 + f.readFrames
  | and l r | or l r | kept _ l r => max (l.edgeFrames l.readFrames) (3 + r.readFrames)

end HashIf.Formula
