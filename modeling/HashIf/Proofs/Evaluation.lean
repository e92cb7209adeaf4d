import HashIf.Formula.Evaluate

/-!
# `HashIf.Proofs.Evaluation`: the machine computes the truth value of a formula

Strictness is checked and truth values are computed with stacks of pending work.  Both are plain
recursion: a task for a strict formula leaves its truth value on top of the values, whatever tasks wait
behind it and whatever values lie below.

## Contents
- `Propositional`, `isStrict_iff`: strictness by recursion.
- `holds`: the truth value of a formula by recursion.
- `runTasks_visit`, `evaluate_propositional`: what the machine computes.
-/

namespace HashIf.Formula

/-! ## Strictness -/

/-- Only constants, variables and connectives occur. -/
def Propositional : Formula → Prop
  | const _ | var _ => True
  | not f => f.Propositional
  | and l r | or l r => l.Propositional ∧ r.Propositional
  | lit _ | kept _ _ _ | emptyCall _ | call _ _ | unknown _ => False

/-- The stack of pending formulas is strict if each formula on it is. -/
theorem allStrict_iff (pending : List Formula) :
    allStrict pending = true ↔ ∀ f ∈ pending, f.Propositional := by
  fun_induction allStrict pending with
  | case1 =>
      constructor
      · intro _ f hf
        cases hf
      · intro _
        rfl
  | case2 b rest ih =>
      rw [ih, List.forall_mem_cons]
      exact (and_iff_right trivial).symm
  | case3 x rest ih =>
      rw [ih, List.forall_mem_cons]
      exact (and_iff_right trivial).symm
  | case4 f rest ih =>
      rw [ih, List.forall_mem_cons, List.forall_mem_cons]
      rfl
  | case5 l r rest ih =>
      rw [ih, List.forall_mem_cons, List.forall_mem_cons, List.forall_mem_cons, Propositional, and_assoc]
      exact and_left_comm
  | case6 l r rest ih =>
      rw [ih, List.forall_mem_cons, List.forall_mem_cons, List.forall_mem_cons, Propositional, and_assoc]
      exact and_left_comm
  | case7 | case8 | case9 | case10 | case11 =>
      constructor
      · intro h
        cases h
      · intro h
        exact (h _ List.mem_cons_self).elim

/-- **A formula is strict exactly if it is propositional.** -/
theorem isStrict_iff (f : Formula) : f.isStrict = true ↔ f.Propositional := by
  rw [isStrict, allStrict_iff, List.forall_mem_singleton]

/-! ## Truth values -/

/-- The truth value of a propositional formula. -/
def holds (σ : String → Bool) : Formula → Bool
  | const b => b
  | var x => σ x
  | not f => !f.holds σ
  | and l r => l.holds σ && r.holds σ
  | or l r => l.holds σ || r.holds σ
  | lit _ | kept _ _ _ | emptyCall _ | call _ _ | unknown _ => false

/-- **The task for a propositional formula puts its truth value on the stack** and changes nothing else.
    The induction is on the formula, for all tasks behind it and all values below at once. -/
theorem runTasks_visit (σ : String → Bool) {f : Formula} (h : f.Propositional) (rest : List Task)
    (values : List Bool) :
    runTasks σ (.visit f :: rest) values = runTasks σ rest (f.holds σ :: values) := by
  induction f generalizing rest values with
  | const b => rw [runTasks, holds]
  | var x => rw [runTasks, holds]
  | not f ih => rw [runTasks, ih h, runTasks, holds]
  | and l r ihl ihr => rw [runTasks, ihl h.1, ihr h.2, runTasks, holds]
  | or l r ihl ihr => rw [runTasks, ihl h.1, ihr h.2, runTasks, holds]
  | lit | kept | emptyCall | call | unknown => exact h.elim

/-- **A propositional formula evaluates to its truth value.** -/
theorem evaluate_propositional (σ : String → Bool) {f : Formula} (h : f.Propositional) :
    f.evaluate σ = .ok (f.holds σ) := by
  rw [evaluate, runTasks_visit σ h, runTasks]

end HashIf.Formula
