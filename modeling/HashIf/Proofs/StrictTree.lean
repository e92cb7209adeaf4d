import HashIf.Condition.Strict
import HashIf.Proofs.ExtendedTree
import HashIf.Proofs.Lexing

/-!
# `HashIf.Proofs.StrictTree`: the strict formula, operator by operator

The strict reading goes down the left edge of a tree as long as it meets connectives, and comes back
through the right operands.  This is the plain recursion: the formula of a connective is made of the
formulas of its two operands.  What the strict reading accepts, and what it gives, is said once by a
relation with one rule for each kind of node; everything else about it is an induction on that relation.

## Contents
- `strict_chain`, `strict_connective`: the loop down the left edge leaves the result alone.
- `strict_comparison`: the formula of a comparison.
- `Expr.firstOperand?`: the operator of a node with its first operand.
- `StrictOf`: the strict formula of a tree as a relation.
- `strict_eq_ok_iff`: the strict reading gives exactly the formulas of the relation.
-/

namespace HashIf

namespace Condition

/-! ## Chains of connectives -/

theorem strictJoints_cons (o : Options) (left : Formula) (j : Joint) (js : List Joint) :
    strictJoints o left (j :: js)
      = (strict o j.right).bind fun right => strictJoints o (connect j.op left right) js := by
  rw [strictJoints]
  cases strict o j.right <;> rfl

/-- One step of the strict reading at a connective. -/
theorem strict_eq_chain (o : Options) {op : Operator} (hop : op.isConnective = true) (l r : Expr)
    (pos : Option Int) :
    strict o (.binary op l r pos)
      = (strict o (chain Operator.isConnective l [⟨op, r⟩]).1).bind
          (strictJoints o · (chain Operator.isConnective l [⟨op, r⟩]).2) := by
  rw [strict, if_pos hop]
  dsimp only
  cases strict o (chain Operator.isConnective l [⟨op, r⟩]).1 <;> rfl

/-- **The loop down the left edge leaves the result alone.**  It stops where no connective is met. -/
theorem strict_chain (o : Options) (e : Expr) (outer : List Joint) :
    (strict o (chain Operator.isConnective e outer).1).bind
        (strictJoints o · (chain Operator.isConnective e outer).2)
      = (strict o e).bind (strictJoints o · outer) := by
  induction e generalizing outer with
  | binary op l r pos ihl =>
      rw [chain]
      by_cases hop : op.isConnective = true
      · -- The hypothesis is used twice: for the joints above the node, and for the node on its own.
        rw [if_pos hop, ihl, strict_eq_chain o hop, ihl]
        cases strict o l with
        | error f => rfl
        | ok left =>
            show strictJoints o left (⟨op, r⟩ :: outer)
              = (strictJoints o left [⟨op, r⟩]).bind (strictJoints o · outer)
            rw [strictJoints_cons, strictJoints_cons]
            cases strict o r with
            | error f => rfl
            | ok right =>
                show _ = (strictJoints o (connect op left right) []).bind _
                rw [strictJoints]
                rfl
      · rw [if_neg hop]
  | _ => rfl

/-- **The formula of a connective** is made of the formulas of its operands, the left one first. -/
theorem strict_connective (o : Options) {op : Operator} (hop : op.isConnective = true) (l r : Expr)
    (pos : Option Int) :
    strict o (.binary op l r pos)
      = (strict o l).bind fun left =>
          (strict o r).bind fun right => .ok (connect op left right) := by
  rw [strict_eq_chain o hop, strict_chain]
  cases strict o l with
  | error f => rfl
  | ok left =>
      show strictJoints o left [⟨op, r⟩] = _
      rw [strictJoints_cons]
      cases strict o r with
      | error f => rfl
      | ok right =>
          show strictJoints o (connect op left right) [] = _
          rw [strictJoints]
          rfl

end Condition

/-- The operator of a node with its first operand.  A negation looks at no other one. -/
def Expr.firstOperand? : Expr → Option (Operator × Expr)
  | .unary op a _ | .binary op a _ _ => some (op, a)
  | _ => none

theorem Expr.firstOperand?_eq_some {e a : Expr} {op : Operator} (h : e.firstOperand? = some (op, a)) :
    (∃ p, e = .unary op a p) ∨ ∃ r p, e = .binary op a r p := by
  unfold firstOperand? at h
  split at h
  · cases h
    exact .inl ⟨_, rfl⟩
  · cases h
    exact .inr ⟨_, _, rfl⟩
  · cases h

namespace Condition

/-! ## The strict reading as a relation -/

/-- The strict formula of a tree: a number is a constant, a known test is its formula, a bare variable and
    a comparison are variables if they are to be encoded, and negations and connectives are kept. -/
inductive StrictOf (o : Options) : Expr → Formula → Prop where
  | number (v : Number) (p : Option Int) : StrictOf o (.num v p) (truth v)
  | negative {e : Expr} {v : Number} {p : Option Int} (h : e.firstOperand? = some (.minus, .num v p)) :
      StrictOf o e (truth v)
  | test {name x : String} {t : ConfigTest} (p q : Option Int)
      (h : ConfigTest.ofName? o.linux name = some t) :
      StrictOf o (.call name (.var x q) p) (t.formula x)
  | bare (x : String) (p : Option Int) (hfuzzy : o.fuzzy = true) :
      StrictOf o (.var x p) (.var (nonzeroName x))
  | comparison {op : Operator} {l r : Expr} {name : String} (p : Option Int) (hfuzzy : o.fuzzy = true)
      (hop : op.isComparison = true) (h : comparisonName? op (some l) (some r) = some name) :
      StrictOf o (.binary op l r p) (.var name)
  | not {e a : Expr} {f : Formula} (h : e.firstOperand? = some (.boolNot, a)) (ha : StrictOf o a f) :
      StrictOf o e (.not f)
  | connective {op : Operator} {l r : Expr} {f g : Formula} (p : Option Int)
      (hop : op.isConnective = true) (hl : StrictOf o l f) (hr : StrictOf o r g) :
      StrictOf o (.binary op l r p) (connect op f g)

/-- What a call of a known test gives. -/
theorem strictCall_eq_ok {o : Options} {name : String} {argument : Option Expr} {pos : Option Int}
    {f : Formula} (h : strictCall o name argument pos = .ok f) :
    ∃ t x q, ConfigTest.ofName? o.linux name = some t ∧ argument = some (.var x q) ∧ f = t.formula x := by
  unfold strictCall testFormula at h
  cases ht : ConfigTest.ofName? o.linux name with
  | none =>
      rw [ht] at h
      cases h
  | some t =>
      rw [ht] at h
      cases hx : testedVariable name argument pos with
      | error fault =>
          rw [hx] at h
          cases h
      | ok x =>
          rw [hx] at h
          cases h
          obtain ⟨q, hq⟩ := testedVariable_eq_ok hx
          exact ⟨t, x, q, rfl, hq, rfl⟩

/-- A comparison that is encoded has two sides and a name. -/
theorem encodeComparison_eq_ok {fuzzy : Bool} {op : Operator} {l r : Option Expr} {pos : Option Int}
    {f : Formula} (h : encodeComparison fuzzy op l r pos = .ok f) :
    ∃ name, fuzzy = true ∧ comparisonName? op l r = some name ∧ f = .var name := by
  unfold encodeComparison at h
  cases fuzzy with
  | false => cases h
  | true =>
      cases hname : comparisonName? op l r with
      | none =>
          rw [hname] at h
          cases h
      | some name =>
          rw [hname] at h
          cases h
          exact ⟨name, rfl, rfl, rfl⟩

/-- What a node gives that is neither a connective, a negation nor a comparison. -/
theorem strict_sign_eq_ok {op : Operator} {a : Expr} {pos : Option Int} {f : Formula}
    (h : (match negatedNumber? op a with
      | some v => .ok (truth v)
      | none => .error ⟨.unsupportedOperator op, pos⟩ : Except LocatedFault Formula) = .ok f) :
    ∃ v p, op = .minus ∧ a = .num v p ∧ f = truth v := by
  cases hneg : negatedNumber? op a with
  | none =>
      rw [hneg] at h
      cases h
  | some v =>
      rw [hneg] at h
      cases h
      obtain ⟨hop, p, ha⟩ := negatedNumber?_eq_some hneg
      exact ⟨v, p, hop, ha, rfl⟩

/-- The formula of a comparison. -/
theorem strict_comparison (o : Options) {op : Operator} (hop : op.isComparison = true) (l r : Expr)
    (pos : Option Int) :
    strict o (.binary op l r pos) = encodeComparison o.fuzzy op (some l) (some r) pos := by
  have hconn : ¬ op.isConnective = true := by
    cases op <;> simp_all [Operator.isComparison, Operator.isConnective]
  have hne : op ≠ .boolNot := by
    rintro rfl
    cases hop
  rw [strict, if_neg hconn, if_neg hne, if_pos hop]

/-- A comparison needs two sides. -/
theorem comparisonName?_none (op : Operator) (l : Option Expr) : comparisonName? op l none = none := by
  unfold comparisonName?
  split <;> simp_all

/-- What the strict reading gives is in the relation. -/
theorem strictOf_of_strict {o : Options} {e : Expr} {f : Formula} (h : strict o e = .ok f) :
    StrictOf o e f := by
  induction e generalizing f with
  | unary op a p ih =>
      rw [strict] at h
      split at h
      · split at h <;> cases h
      split at h
      · rename_i hop
        obtain ⟨g, hg, rfl⟩ := Token.map_eq_ok h
        exact .not (by rw [hop]; rfl) (ih hg)
      split at h
      · obtain ⟨name, -, hname, -⟩ := encodeComparison_eq_ok h
        rw [comparisonName?_none] at hname
        cases hname
      · obtain ⟨v, q, rfl, rfl, rfl⟩ := strict_sign_eq_ok h
        exact .negative rfl
  | call name a p ih =>
      rw [strict] at h
      obtain ⟨t, x, q, ht, ha, rfl⟩ := strictCall_eq_ok h
      cases ha
      exact .test p q ht
  | binary op l r p ihl ihr =>
      by_cases hconn : op.isConnective = true
      · rw [strict_connective o hconn] at h
        obtain ⟨left, hleft, h⟩ := bind_eq_ok h
        obtain ⟨right, hright, h⟩ := bind_eq_ok h
        cases h
        exact .connective p hconn (ihl hleft) (ihr hright)
      by_cases hcomp : op.isComparison = true
      · rw [strict_comparison o hcomp] at h
        obtain ⟨name, hfuzzy, hname, rfl⟩ := encodeComparison_eq_ok h
        exact .comparison p hfuzzy hcomp hname
      rw [strict, if_neg hconn] at h
      by_cases hop : op = .boolNot
      · rw [if_pos hop] at h
        obtain ⟨g, hg, rfl⟩ := Token.map_eq_ok h
        exact .not (by rw [hop]; rfl) (ihl hg)
      · rw [if_neg hop, if_neg hcomp] at h
        obtain ⟨v, q, rfl, rfl, rfl⟩ := strict_sign_eq_ok h
        exact .negative rfl
  | var x p =>
      rw [strict] at h
      split at h
      · rename_i hfuzzy
        cases h
        exact .bare x p hfuzzy
      · cases h
  | num v p =>
      rw [strict] at h
      cases h
      exact .number v p
  | mark op p =>
      rw [strict] at h
      split at h
      · cases h
      split at h
      · obtain ⟨name, -, hname, -⟩ := encodeComparison_eq_ok h
        rw [comparisonName?_none] at hname
        cases hname
      · cases h
  | emptyCall name p =>
      rw [strict] at h
      obtain ⟨t, x, q, -, ha, -⟩ := strictCall_eq_ok h
      cases ha
  | group items p =>
      rw [strict] at h
      cases h

/-- What is in the relation is given by the strict reading. -/
theorem StrictOf.strict_eq {o : Options} {e : Expr} {f : Formula} (h : StrictOf o e f) :
    strict o e = .ok f := by
  induction h with
  | number v p => rw [strict]
  | negative h =>
      rcases Expr.firstOperand?_eq_some h with ⟨p, rfl⟩ | ⟨r, p, rfl⟩
      · rw [strict]
        rfl
      · rw [strict]
        rfl
  | test p q ht =>
      rw [strict, strictCall, testFormula, ht]
      rfl
  | bare x p hfuzzy => rw [strict, if_pos hfuzzy]
  | @comparison op l r name p hfuzzy hop h =>
      rw [strict_comparison o hop, encodeComparison, hfuzzy, h]
      rfl
  | not h ha ih =>
      rcases Expr.firstOperand?_eq_some h with ⟨p, rfl⟩ | ⟨r, p, rfl⟩
      · rw [strict, if_neg (by decide), if_pos rfl, ih]
        rfl
      · rw [strict, if_neg (by decide), if_pos rfl, ih]
        rfl
  | connective p hop hl hr ihl ihr =>
      rw [strict_connective o hop, ihl, ihr]
      rfl

/-- **The strict reading of a tree gives exactly the formulas of the relation.** -/
theorem strict_eq_ok_iff {o : Options} {e : Expr} {f : Formula} :
    strict o e = .ok f ↔ StrictOf o e f :=
  ⟨strictOf_of_strict, StrictOf.strict_eq⟩

end Condition

end HashIf
