import HashIf.Proofs.InOrder
import HashIf.Proofs.Skeleton

/-!
# `HashIf.Proofs.PlainReadings`: the readings without their loops

Both readings walk down the left edge of a tree and come back through the right operands.  Here they are
written as plain recursions: the left operand is read, then the right one, and then the node is built.  On
trees whose operators are bound the loops give the same, formula or fault.

What a failing reading reports can be told without either of them.  The strict reading looks at the clauses
of a tree, the parts that its connectives and negations join, and the extended one at all of its nodes.  Each
of these has a fault of its own or none, and the first fault in the order of the tree is reported.

## Contents
- `strictPlain`, `extendedPlain`: the readings as plain recursions.
- `strict_eq_plain`, `extended_eq_plain`: the loops leave the results alone.
- `Expr.clauses`, `clauseFault?`, `nodeFault?`: the faults of a tree, one by one.
- `fault?_strictPlain`, `fault?_extendedPlain`: a reading reports the first of them.
- `readings_eq_plain`: both readings against their plain recursions.
-/

namespace HashIf

/-- An operator with one operand neither joins nor compares. -/
theorem Operator.isUnary_apart {op : Operator} (h : op.isUnary = true) :
    op.isConnective = false ∧ op.isComparison = false := by
  cases op with
  | boolNot | bitNot | plus | minus | increment | decrement => exact ⟨rfl, rfl⟩
  | _ => cases h

namespace Condition

/-! ## Plain recursions -/

/-- The strict formula of a tree; of two operands the left one is read first. -/
def strictPlain (o : Options) : Expr → Except LocatedFault Formula
  | .var x pos => if o.fuzzy then .ok (.var (nonzeroName x)) else .error ⟨.bareVariable x, pos⟩
  | .num v _ => .ok (truth v)
  | .emptyCall name pos => strictCall o name none pos
  | .call name a pos => strictCall o name (some a) pos
  | .unary op a pos =>
    if op = .boolNot then .not <$> strictPlain o a
    else match negatedNumber? op a with
      | some v => .ok (truth v)
      | none => .error ⟨.unsupportedOperator op, pos⟩
  | .binary op l r pos =>
    if op.isConnective then do
      let left ← strictPlain o l
      let right ← strictPlain o r
      return connect op left right
    else if op.isComparison then encodeComparison o.fuzzy op (some l) (some r) pos
    else .error ⟨.unsupportedOperator op, pos⟩
  | .mark op pos => .error ⟨.missingOperand op, pos⟩
  | .group items pos => .error ⟨.unexpectedNode (Expr.group items pos).text, pos⟩

/-- The extended formula of a tree; of two operands the left one is read first. -/
def extendedPlain (linux : Bool) : Expr → Except LocatedFault Formula
  | .var x _ => .ok (.var x)
  | .num v _ => .ok (.lit v.plain)
  | .emptyCall name pos =>
    match ConfigTest.ofName? linux name with
    | some t => t.formula <$> testedVariable name none pos
    | none => .ok (.emptyCall name)
  | .call name a pos =>
    match ConfigTest.ofName? linux name with
    | some t => t.formula <$> testedVariable name (some a) pos
    | none => .call name <$> extendedPlain linux a
  | .unary op a pos =>
    if op = .boolNot then .not <$> extendedPlain linux a
    else match negatedNumber? op a with
      | some v => .ok (negativeLiteral v)
      | none => .error ⟨.unsupportedOperator op, pos⟩
  | .binary op l r _ => do
    let left ← extendedPlain linux l
    let right ← extendedPlain linux r
    return joinKept op left right
  | .mark op pos => .error ⟨.missingOperand op, pos⟩
  | .group items pos => .error ⟨.unexpectedNode (Expr.group items pos).text, pos⟩

/-- **The strict reading is its plain recursion.** -/
theorem strict_eq_plain (o : Options) {e : Expr} (he : e.Bound) : strict o e = strictPlain o e := by
  induction e with
  | var x p => rw [strict, strictPlain]
  | num v p => rw [strict, strictPlain]
  | emptyCall name p => rw [strict, strictPlain]
  | unary op a p ih =>
      obtain ⟨hunary, ha⟩ := he
      obtain ⟨hconn, hcomp⟩ := Operator.isUnary_apart hunary
      -- What is left is one case distinction, written down on both sides.
      rewrite [strict, strictPlain, ih ha, hconn, hcomp, if_neg Bool.false_ne_true, if_neg Bool.false_ne_true]
      rfl
  | binary op l r p ihl ihr =>
      obtain ⟨hbinary, hl, hr⟩ := he
      rw [strictPlain]
      split
      · rename_i hconn
        rw [strict_connective o hconn, ihl hl, ihr hr]
        rfl
      · rename_i hconn
        have hnot : op ≠ .boolNot := by
          rintro rfl
          cases hbinary
        rw [strict, if_neg hconn, if_neg hnot, negatedNumber?_of_binary hbinary]
  | call name a p ih => rw [strict, strictPlain]
  | mark | group => exact he.elim

/-- **The extended reading is its plain recursion.** -/
theorem extended_eq_plain (linux : Bool) {e : Expr} (he : e.Bound) :
    extended linux e = extendedPlain linux e := by
  induction e with
  | var x p => rw [extended, extendedPlain]
  | num v p => rw [extended, extendedPlain]
  | emptyCall name p =>
      rewrite [extended, extendedPlain]
      rfl
  | unary op a p ih =>
      rewrite [extended, extendedPlain, ih he.2]
      rfl
  | binary op l r p ihl ihr =>
      obtain ⟨hbinary, hl, hr⟩ := he
      rw [extendedPlain, extended_binary linux hbinary hl.leftEdge, ihl hl, ihr hr]
      rfl
  | call name a p ih =>
      rewrite [extended, extendedPlain, ih he]
      rfl
  | mark | group => exact he.elim

end Condition

/-! ## The faults of a tree -/

/-- The parts of a tree that connectives and negations join, from left to right. -/
def Expr.clauses : Expr → List Expr
  | .unary op a p => if op = .boolNot then a.clauses else [.unary op a p]
  | .binary op l r p => if op.isConnective then l.clauses ++ r.clauses else [.binary op l r p]
  | e => [e]

namespace Condition

/-- The sides of a comparison that has a name: variables and numbers, at least one of them a variable. -/
def comparable : Expr → Expr → Bool
  | .var _ _, .num _ _ | .num _ _, .var _ _ | .var _ _, .var _ _ => true
  | _, _ => false

/-- Why a clause has no strict formula. -/
def clauseFault? (o : Options) : Expr → Option LocatedFault
  | .var x p => if o.fuzzy then none else some ⟨.bareVariable x, p⟩
  | .num _ _ => none
  | .emptyCall name p =>
    if (ConfigTest.ofName? o.linux name).isSome then some ⟨.testWithoutArgument name, p⟩
    else some ⟨.unsupportedCall name, p⟩
  | .call name a p =>
    if (ConfigTest.ofName? o.linux name).isSome then
      match a with
      | .var _ _ => none
      | _ => some ⟨.testWithoutVariable name, p⟩
    else some ⟨.unsupportedCall name, p⟩
  | .unary .minus (.num _ _) _ => none
  | .unary op _ p => some ⟨.unsupportedOperator op, p⟩
  | .binary op l r p =>
    if op.isComparison then
      if o.fuzzy then
        if comparable l r then none else some ⟨.incomparable, p⟩
      else some ⟨.comparisonNotEncoded op, p⟩
    else some ⟨.unsupportedOperator op, p⟩
  | .mark op p => some ⟨.missingOperand op, p⟩
  | .group items p => some ⟨.unexpectedNode (Expr.group items p).text, p⟩

/-- Why a node has no extended formula, whatever stands below it. -/
def nodeFault? (linux : Bool) : Expr → Option LocatedFault
  | .emptyCall name p =>
    if (ConfigTest.ofName? linux name).isSome then some ⟨.testWithoutArgument name, p⟩ else none
  | .call _ (.var _ _) _ => none
  | .call name _ p =>
    if (ConfigTest.ofName? linux name).isSome then some ⟨.testWithoutVariable name, p⟩ else none
  | .unary .boolNot _ _ => none
  | .unary .minus (.num _ _) _ => none
  | .unary op _ p => some ⟨.unsupportedOperator op, p⟩
  | _ => none

/-- The fault that a result is, if it is one. -/
def fault? {α : Type} : Except LocatedFault α → Option LocatedFault
  | .error f => some f
  | .ok _ => none

theorem fault?_eq_some_iff {α : Type} {r : Except LocatedFault α} {f : LocatedFault} :
    fault? r = some f ↔ r = .error f := by
  cases r with
  | error g => simp [fault?]
  | ok a => simp [fault?]

theorem fault?_map {α β : Type} (g : α → β) (r : Except LocatedFault α) :
    fault? (g <$> r) = fault? r := by
  cases r <;> rfl

/-- Of two results that are joined, the first fault is reported. -/
theorem fault?_join {α β γ : Type} (x : Except LocatedFault α) (y : Except LocatedFault β)
    (g : α → β → γ) :
    fault? (do let a ← x; let b ← y; return g a b) = (fault? x).or (fault? y) := by
  cases x with
  | error f => rfl
  | ok a => cases y <;> rfl

theorem fault?_testedVariable_none (name : String) (p : Option Int) :
    fault? (testedVariable name none p) = some ⟨.testWithoutArgument name, p⟩ := rfl

/-- A test of anything but a variable is a fault. -/
theorem fault?_testedVariable_some (name : String) (a : Expr) (p : Option Int) :
    fault? (testedVariable name (some a) p)
      = match a with
        | .var _ _ => none
        | _ => some ⟨.testWithoutVariable name, p⟩ := by
  cases a <;> rfl

theorem fault?_strictCall (o : Options) (name : String) (argument : Option Expr) (p : Option Int) :
    fault? (strictCall o name argument p)
      = if (ConfigTest.ofName? o.linux name).isSome then fault? (testedVariable name argument p)
        else some ⟨.unsupportedCall name, p⟩ := by
  unfold strictCall testFormula
  cases ConfigTest.ofName? o.linux name with
  | none => rfl
  | some t => cases testedVariable name argument p <;> rfl

theorem comparisonName?_isSome (op : Operator) (l r : Expr) :
    (comparisonName? op (some l) (some r)).isSome = comparable l r := by
  cases l with
  | var x p => cases r <;> rfl
  | num v p => cases r <;> rfl
  | _ => rfl

theorem fault?_encodeComparison (fuzzy : Bool) (op : Operator) (l r : Expr) (p : Option Int) :
    fault? (encodeComparison fuzzy op (some l) (some r) p)
      = if fuzzy then if comparable l r then none else some ⟨.incomparable, p⟩
        else some ⟨.comparisonNotEncoded op, p⟩ := by
  unfold encodeComparison
  rw [← comparisonName?_isSome op]
  cases fuzzy with
  | false => rfl
  | true => cases comparisonName? op (some l) (some r) <;> rfl

/-- What is left of an operator with one operand, other than `!`, is a minus in front of a number. -/
theorem clauseFault?_unary (o : Options) (op : Operator) (a : Expr) (p : Option Int) :
    clauseFault? o (.unary op a p)
      = match negatedNumber? op a with
        | some _ => none
        | none => some ⟨.unsupportedOperator op, p⟩ := by
  cases op with
  | minus => cases a <;> rfl
  | _ => rfl

/-- **The strict reading reports the first fault of a clause.** -/
theorem fault?_strictPlain (o : Options) {e : Expr} (he : e.Bound) :
    fault? (strictPlain o e) = e.clauses.findSome? (clauseFault? o) := by
  induction e with
  | var x p =>
      simp only [strictPlain, Expr.clauses, List.findSome?_singleton, clauseFault?]
      split <;> rfl
  | num v p => rfl
  | emptyCall name p =>
      simp only [strictPlain, Expr.clauses, List.findSome?_singleton, clauseFault?, fault?_strictCall,
        fault?_testedVariable_none]
  | unary op a p ih =>
      rw [strictPlain, Expr.clauses]
      split
      · rw [fault?_map, ih he.2]
      · rw [List.findSome?_singleton, clauseFault?_unary]
        cases negatedNumber? op a <;> rfl
  | binary op l r p ihl ihr =>
      obtain ⟨-, hl, hr⟩ := he
      rw [strictPlain, Expr.clauses]
      split
      · rw [fault?_join, ihl hl, ihr hr, List.findSome?_append]
      · rw [List.findSome?_singleton, clauseFault?]
        split
        · exact fault?_encodeComparison o.fuzzy op l r p
        · rfl
  | call name a p ih =>
      simp only [strictPlain, Expr.clauses, List.findSome?_singleton, clauseFault?, fault?_strictCall,
        fault?_testedVariable_some]
  | mark | group => exact he.elim

theorem nodeFault?_unary (linux : Bool) {op : Operator} (hop : op ≠ .boolNot) (a : Expr) (p : Option Int) :
    nodeFault? linux (.unary op a p)
      = match negatedNumber? op a with
        | some _ => none
        | none => some ⟨.unsupportedOperator op, p⟩ := by
  cases op with
  | boolNot => exact absurd rfl hop
  | minus => cases a <;> rfl
  | _ => rfl

theorem nodeFault?_call (linux : Bool) (name : String) (a : Expr) (p : Option Int) :
    nodeFault? linux (.call name a p)
      = if (ConfigTest.ofName? linux name).isSome then fault? (testedVariable name (some a) p) else none := by
  cases a with
  | var x q => exact (ite_self none).symm
  | _ => rfl

/-- **The extended reading reports the first fault of a node**, where an operator comes before its operands
    and a call before its argument. -/
theorem fault?_extendedPlain (linux : Bool) {e : Expr} (he : e.Bound) :
    fault? (extendedPlain linux e) = e.nodes.findSome? (nodeFault? linux) := by
  induction e with
  | var x p => rfl
  | num v p => rfl
  | emptyCall name p =>
      simp only [extendedPlain, Expr.nodes, List.findSome?_singleton, nodeFault?]
      cases ConfigTest.ofName? linux name <;> rfl
  | unary op a p ih =>
      rw [extendedPlain, Expr.nodes, List.findSome?_cons]
      split
      · rename_i hop
        subst hop
        rw [fault?_map, ih he.2]
        rfl
      · rename_i hop
        rw [nodeFault?_unary linux hop]
        cases hneg : negatedNumber? op a with
        | none => rfl
        | some v =>
            -- Below a minus in front of a number there is only the number.
            obtain ⟨-, q, rfl⟩ := negatedNumber?_eq_some hneg
            rfl
  | binary op l r p ihl ihr =>
      obtain ⟨-, hl, hr⟩ := he
      rw [extendedPlain, Expr.nodes, List.findSome?_cons, List.findSome?_append, fault?_join, ihl hl, ihr hr]
      rfl
  | call name a p ih =>
      rw [extendedPlain, Expr.nodes, List.findSome?_cons, nodeFault?_call]
      cases ConfigTest.ofName? linux name with
      | none =>
          show fault? (Formula.call name <$> extendedPlain linux a) = a.nodes.findSome? (nodeFault? linux)
          rw [fault?_map, ih he]
      | some t =>
          -- A test looks at its argument only to see whether it is a variable.
          cases a <;> rfl
  | mark | group => exact he.elim

/-! ## Both readings -/

/-- **The readings are plain recursions.**  On trees whose operators are bound the loops along the left edge
    give what the recursion gives that reads the left operand, then the right one, and then builds the
    node.  If there is a fault, the first one from left to right is reported: of a clause in the strict
    reading, of a node in the extended one. -/
theorem readings_eq_plain (o : Options) {e : Expr} (he : e.Bound) :
    strict o e = strictPlain o e
      ∧ extended o.linux e = extendedPlain o.linux e
      ∧ (∀ f, strict o e = .error f ↔ e.clauses.findSome? (clauseFault? o) = some f)
      ∧ ∀ f, extended o.linux e = .error f ↔ e.nodes.findSome? (nodeFault? o.linux) = some f := by
  have hstrict := strict_eq_plain o he
  have hextended := extended_eq_plain o.linux he
  refine ⟨hstrict, hextended, fun f => ?_, fun f => ?_⟩
  · rw [hstrict, ← fault?_strictPlain o he, fault?_eq_some_iff]
  · rw [hextended, ← fault?_extendedPlain o.linux he, fault?_eq_some_iff]

/-- The tree of `defined(A) && B + ~C < 2 || f(D++)`, which both readings refuse in two places. -/
def twiceRefused : Expr :=
  .binary .boolOr
    (.binary .boolAnd (.call "defined" (.var "A" (some 8)) (some 0))
      (.binary .lt
        (.binary .add (.var "B" (some 14)) (.unary .bitNot (.var "C" (some 19)) (some 18)) (some 16))
        (.num (.int 2) (some 23)) (some 21)) (some 11))
    (.call "f" (.unary .increment (.var "D" (some 30)) (some 31)) (some 28)) (some 25)

theorem readings_eq_plain_twiceRefused :
    twiceRefused.Bound
      ∧ strict ⟨false, true, .refuse⟩ twiceRefused = .error ⟨.incomparable, some 21⟩
      ∧ extended false twiceRefused = .error ⟨.unsupportedOperator .bitNot, some 18⟩ := by
  have hbound : twiceRefused.Bound :=
    ⟨rfl, ⟨rfl, trivial, rfl, ⟨rfl, trivial, rfl, trivial⟩, trivial⟩, rfl, trivial⟩
  obtain ⟨hstrict, hextended, -⟩ := readings_eq_plain ⟨false, true, .refuse⟩ hbound
  exact ⟨hbound, hstrict, hextended⟩

end Condition

end HashIf
