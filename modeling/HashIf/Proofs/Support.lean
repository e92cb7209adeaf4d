import HashIf.Proofs.Preorder
import HashIf.Proofs.VariableNames

/-!
# `HashIf.Proofs.Support`: the variables of a formula are all that its value depends on

The variables are collected by one traversal and their values are looked up by another.  Both meet the variables
among the nodes of the formula: the first lists their names, and the second looks up no other ones.  So two
assignments that agree on the listed names give a strict formula the same value, whatever they say of all
other names.

## Contents
- `mem_occurrences_iff`, `known_iff`: names and kinds read off the nodes in pre-order.
- `holds_congr`: the truth value looks at the names in the formula only.
- `varNames_support`: the listed variables are those of the formula, and its value depends on no others.
-/

namespace HashIf.Formula

/-! ## Names among the nodes -/

/-- The names of a formula are those of the variables among its nodes. -/
theorem mem_occurrences_iff {x : String} {f : Formula} : x ∈ f.occurrences ↔ var x ∈ f.preorder := by
  induction f with
  | const | lit | emptyCall | unknown => simp [occurrences, preorder]
  | var name => simp [occurrences, preorder]
  | not f ih | call name f ih => simp [occurrences, preorder, ih]
  | and l r ihl ihr | or l r ihl ihr | kept op l r ihl ihr => simp [occurrences, preorder, ihl, ihr]

/-- All kinds are known if no node is of an unknown kind. -/
theorem known_iff {f : Formula} : f.Known ↔ ∀ text, unknown text ∉ f.preorder := by
  induction f with
  | const | var | lit | emptyCall => simp [Known, preorder]
  | unknown text =>
      refine ⟨fun h => h.elim, fun h => ?_⟩
      exact h text List.mem_cons_self
  | not f ih | call name f ih => simp [Known, preorder, ih]
  | and l r ihl ihr | or l r ihl ihr | kept op l r ihl ihr =>
      simp [Known, preorder, ihl, ihr, forall_and]

/-- Propositional formulas have known kinds only. -/
theorem Propositional.known {f : Formula} (h : f.Propositional) : f.Known := by
  induction f with
  | const | var => trivial
  | not f ih => exact ih h
  | and l r ihl ihr | or l r ihl ihr => exact ⟨ihl h.1, ihr h.2⟩
  | lit | kept | emptyCall | call | unknown => exact h.elim

/-- **The listed variables are those of the formula**, in ascending order and each once. -/
theorem exists_varNames {f : Formula} (hf : f.Known) :
    ∃ names, f.varNames = .ok names ∧ names.Pairwise (· < ·)
      ∧ ∀ x, x ∈ names ↔ var x ∈ f.preorder := by
  refine ⟨nameSet f.occurrences, varNames_of_known hf, nameSet_ascending _, fun x => ?_⟩
  rw [mem_nameSet, mem_occurrences_iff]

/-! ## Values and names -/

/-- **The truth value looks at the names in the formula only.** -/
theorem holds_congr {f : Formula} {σ τ : String → Bool} (h : ∀ x, var x ∈ f.preorder → σ x = τ x) :
    f.holds σ = f.holds τ := by
  induction f with
  | const | lit | kept | emptyCall | call | unknown => rfl
  | var x => exact h x List.mem_cons_self
  | not f ih =>
      have hf : f.holds σ = f.holds τ := ih fun x hx => h x (List.mem_cons_of_mem _ hx)
      simp only [holds, hf]
  | and l r ihl ihr | or l r ihl ihr =>
      have hl : l.holds σ = l.holds τ := by
        apply ihl
        intro x hx
        exact h x (List.mem_cons_of_mem _ (List.mem_append_left _ hx))
      have hr : r.holds σ = r.holds τ := by
        apply ihr
        intro x hx
        exact h x (List.mem_cons_of_mem _ (List.mem_append_right _ hx))
      simp only [holds, hl, hr]

/-- **The variables of a formula bound what its value depends on.**  A formula without nodes of an unknown kind
    has the names of its variables listed, all of them and no others, wherever they stand.  A strict formula
    has the same value under any two assignments that agree on the listed names. -/
theorem varNames_support (f : Formula) :
    ((∀ text, unknown text ∉ f.preorder) →
        ∃ names, f.varNames = .ok names ∧ names.Pairwise (· < ·)
          ∧ ∀ x, x ∈ names ↔ var x ∈ f.preorder)
      ∧ (f.isStrict = true →
        ∃ names, f.varNames = .ok names ∧ ∀ σ τ : String → Bool, (∀ x ∈ names, σ x = τ x) →
          ∃ value, f.evaluate σ = .ok value ∧ f.evaluate τ = .ok value) := by
  refine ⟨fun hunknown => exists_varNames (known_iff.mpr hunknown), fun hstrict => ?_⟩
  have hprop : f.Propositional := (isStrict_iff f).mp hstrict
  obtain ⟨names, hnames, -, hmem⟩ := exists_varNames hprop.known
  refine ⟨names, hnames, fun σ τ hagree => ⟨f.holds σ, evaluate_propositional σ hprop, ?_⟩⟩
  have hholds : f.holds σ = f.holds τ := holds_congr fun x hx => hagree x ((hmem x).mpr hx)
  rw [hholds]
  exact evaluate_propositional τ hprop

/-- The formula `!(A && B) || A`. -/
def twoNames : Formula := .or (.not (.and (.var "A") (.var "B"))) (.var "A")

/-- The formula `f(A < B) && !C`, with names under a call, an operator and a negation. -/
def namesBelow : Formula := .and (.call "f" (.kept .lt (.var "A") (.var "B"))) (.not (.var "C"))

/-- A name that is left out counts as false, and a name that does not occur counts for nothing. -/
theorem varNames_support_twoNames :
    twoNames.isStrict = true
      ∧ (∃ value, twoNames.evaluate (assignment [("A", true), ("B", false), ("C", true)]) = .ok value
          ∧ twoNames.evaluate (assignment [("A", true)]) = .ok value)
      ∧ namesBelow.varNames = .ok ["A", "B", "C"]
      ∧ ∀ x, x ∈ ["A", "B", "C"] ↔ var x ∈ namesBelow.preorder := by
  have hstrict : twoNames.isStrict = true := by cbv
  have htwo : twoNames.varNames = .ok ["A", "B"] := by cbv
  have hbelow : namesBelow.varNames = .ok ["A", "B", "C"] := by cbv
  obtain ⟨-, hvalue⟩ := varNames_support twoNames
  obtain ⟨hlisted, -⟩ := varNames_support namesBelow
  obtain ⟨names, hnames, hagree⟩ := hvalue hstrict
  rw [htwo] at hnames
  cases hnames
  obtain ⟨names', hnames', -, hmem⟩ := hlisted (by simp [namesBelow, preorder])
  rw [hbelow] at hnames'
  cases hnames'
  exact ⟨hstrict, hagree _ _ (by decide), hbelow, hmem⟩

end HashIf.Formula
