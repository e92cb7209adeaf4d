import HashIf.Proofs.Evaluation
import HashIf.Proofs.StrictTree

/-!
# `HashIf.Proofs.Meaning`: the strict formula of a tree has the meaning of the tree

The meaning of a tree is a plain recursion over it: `!`, `&&` and `||` are the connectives, and what they
join is given by a table of atoms.  With atoms that are looked up by name in an assignment this is the
truth value of the strict formula, for every tree that has one.

## Contents
- `Atoms`, `Expr.holds`: the meaning of a tree over given atoms.
- `testHolds`, `comparisonHolds`, `Atoms.named`: atoms under an assignment of names.
- `StrictOf.propositional`, `StrictOf.holds_eq`: the formula of a tree has its meaning.
- `evaluate_strict`: evaluating the strict formula of a tree.
-/

namespace HashIf

open Condition

/-! ## The meaning of a tree -/

/-- What the parts of a condition stand for that no connective joins. -/
structure Atoms where
  /-- A number, with or without a minus. -/
  number : Number → Bool
  /-- A variable on its own. -/
  bare : String → Bool
  /-- A call, by its name and the variable it is about. -/
  test : String → String → Bool
  /-- A comparison of two sides. -/
  comparison : Operator → Expr → Expr → Bool

/-- The truth value of a tree over given atoms.  A negation or a minus with two operands occurs only in
    trees that no text gave, and looks at the first one. -/
def Expr.holds (A : Atoms) : Expr → Bool
  | .num v _ => A.number v
  | .var x _ => A.bare x
  | .call name (.var x _) _ => A.test name x
  | .unary .minus (.num v _) _ | .binary .minus (.num v _) _ _ => A.number v
  | .unary .boolNot a _ | .binary .boolNot a _ _ => !a.holds A
  | .binary .boolAnd l r _ => l.holds A && r.holds A
  | .binary .boolOr l r _ => l.holds A || r.holds A
  | .binary op l r _ => A.comparison op l r
  | _ => false

/-- What a test says of a variable: an option is built in or a module. -/
def testHolds (σ : String → Bool) (name x : String) : Bool :=
  match name with
  | "defined" | "IS_BUILTIN" => σ x
  | "IS_MODULE" => σ (x ++ "_MODULE")
  | "IS_ENABLED" => σ x || σ (x ++ "_MODULE")
  | _ => false

/-- A comparison has the value of the name that stands for it. -/
def comparisonHolds (σ : String → Bool) (op : Operator) (l r : Expr) : Bool :=
  match comparisonName? op (some l) (some r) with
  | some name => σ name
  | none => false

/-- Atoms that are looked up by name: a number is true if it is not zero, and everything else is a
    variable of the assignment. -/
def Atoms.named (σ : String → Bool) : Atoms where
  number v := !v.isZero
  bare x := σ (x ++ "_ne_0")
  test := testHolds σ
  comparison := comparisonHolds σ

/-- A comparison is an atom. -/
theorem Expr.holds_comparison (A : Atoms) {op : Operator} (hop : op.isComparison = true) (l r : Expr)
    (p : Option Int) : (Expr.binary op l r p).holds A = A.comparison op l r := by
  cases op with
  | eq | ne | lt | le | gt | ge => simp only [Expr.holds]
  | _ => cases hop

namespace Condition

/-- The formula of a test says what the test says. -/
theorem ConfigTest.holds_formula (σ : String → Bool) {linux : Bool} {name : String} {t : ConfigTest}
    (h : ofName? linux name = some t) (x : String) : (t.formula x).holds σ = testHolds σ name x := by
  unfold ofName? at h
  simp only [beq_iff_eq] at h
  split_ifs at h with hdefined hlinux henabled hmodule hbuiltin
  all_goals cases h
  · rw [hdefined]
    rfl
  · rw [henabled]
    rfl
  · rw [hmodule]
    rfl
  · rw [hbuiltin]
    rfl

namespace StrictOf

variable {o : Options} {e : Expr} {f : Formula}

/-- The strict reading gives nothing but constants, variables and connectives. -/
theorem propositional (h : StrictOf o e f) : f.Propositional := by
  induction h with
  | number | negative | bare | comparison => trivial
  | @test name x t p q ht =>
      cases t with
      | defined | isBuiltin | isModule => trivial
      | isEnabled => exact ⟨trivial, trivial⟩
  | not _ _ ih => exact ih
  | @connective op l r f g p hop _ _ ihl ihr =>
      cases op with
      | boolAnd => exact ⟨ihl, ihr⟩
      | boolOr => exact ⟨ihl, ihr⟩
      | _ => cases hop

/-- **The strict formula of a tree has the truth value of the tree**, under every assignment. -/
theorem holds_eq (h : StrictOf o e f) (σ : String → Bool) : f.holds σ = e.holds (.named σ) := by
  induction h with
  | number v p => rfl
  | negative h =>
      rcases Expr.firstOperand?_eq_some h with ⟨p, rfl⟩ | ⟨r, p, rfl⟩
      · rfl
      · rfl
  | @test name x t p q ht =>
      rw [Expr.holds]
      exact ConfigTest.holds_formula σ ht x
  | bare x p hfuzzy => rfl
  | @comparison op l r name p hfuzzy hop h =>
      rw [Expr.holds_comparison _ hop]
      show σ name = comparisonHolds σ op l r
      rw [comparisonHolds, h]
  | not h _ ih =>
      rcases Expr.firstOperand?_eq_some h with ⟨p, rfl⟩ | ⟨r, p, rfl⟩
      · rw [Formula.holds, Expr.holds, ih]
      · rw [Formula.holds, Expr.holds, ih]
  | @connective op l r f g p hop _ _ ihl ihr =>
      cases op with
      | boolAnd =>
          rw [Expr.holds, ← ihl, ← ihr]
          rfl
      | boolOr =>
          rw [Expr.holds, ← ihl, ← ihr]
          rfl
      | _ => cases hop

end StrictOf

/-- **The strict reading preserves meaning and stays propositional.**  Whatever the options are, the strict
    formula of a tree is strict, and under every assignment it evaluates to the truth value of the
    tree. -/
theorem evaluate_strict {o : Options} {e : Expr} {f : Formula} (h : strict o e = .ok f) :
    f.isStrict = true ∧ ∀ σ : String → Bool, f.evaluate σ = .ok (e.holds (.named σ)) := by
  have hof := strict_eq_ok_iff.mp h
  refine ⟨(Formula.isStrict_iff f).mpr hof.propositional, fun σ => ?_⟩
  rw [Formula.evaluate_propositional σ hof.propositional, hof.holds_eq σ]

/-- The tree of `IS_ENABLED(X) && !(-0) || 2 < A`. -/
def mixedTest : Expr :=
  .binary .boolOr
    (.binary .boolAnd (.call "IS_ENABLED" (.var "X" none) none)
      (.unary .boolNot (.unary .minus (.num (.int 0) none) none) none) none)
    (.binary .lt (.num (.int 2) none) (.var "A" none) none) none

/-- The strict formula of `IS_ENABLED(X) && !(-0) || 2 < A`. -/
def mixedTestFormula : Formula :=
  .or (.and (.or (.var "X") (.var "X_MODULE")) (.not (.const false))) (.var "A_gt_2")

theorem evaluate_strict_mixedTest :
    strict ⟨true, true, .refuse⟩ mixedTest = .ok mixedTestFormula
      ∧ mixedTestFormula.isStrict = true
      ∧ mixedTestFormula.evaluate (Formula.assignment [("A_gt_2", true)]) = .ok true := by
  have hread : strict ⟨true, true, .refuse⟩ mixedTest = .ok mixedTestFormula := by cbv
  obtain ⟨hstrict, heval⟩ := evaluate_strict hread
  refine ⟨hread, hstrict, ?_⟩
  rw [heval]
  decide

end Condition

end HashIf
