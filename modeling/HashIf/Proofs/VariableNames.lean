import HashIf.Formula.Variables
import HashIf.Proofs.ResolvedTrees
import HashIf.Proofs.ExtendedTree

/-!
# `HashIf.Proofs.VariableNames`: the variables of a condition, read off its tokens

Which variables a condition depends on can be told from its tokens alone: all names but those of calls.  A
name is that of a call if a bracket opens behind it, or if it is `defined` and a name stands behind it.

On the side of the formula, the search with a stack finds the names that the plain recursion meets.  On the
side of the tokens, each rule of the grammar puts the names of its parts one behind the other.  Whether a name
is that of a call depends on the token behind it, so the induction over a derivation needs to know what
follows: in all places of the grammar it is nothing, an operator or a closing bracket, and none of these makes
a call of the name in front of it.

## Contents
- `Formula.occurrences`, `Formula.Known`, `Formula.collect_cons`: the names in a formula.
- `Formula.mem_nameSet`, `Formula.nameSet_ascending`: names in order, each once.
- `Token.isCallName`, `Token.plainNames`, `Token.mem_plainNames`: the names among tokens that are not those
  of calls.
- `Derivation.plainNames_yield`: the names in the formula of a derivation are those among its tokens.
- `varNames_eq_plain_names`: the variables of a condition.
-/

namespace HashIf

/-! ## The names in a formula -/

namespace Formula

/-- The names of the variables of a formula, from left to right, as often as they occur. -/
def occurrences : Formula → List String
  | var name => [name]
  | not f | call _ f => f.occurrences
  | and l r | or l r | kept _ l r => l.occurrences ++ r.occurrences
  | const _ | lit _ | emptyCall _ | unknown _ => []

/-- No node is of an unknown kind. -/
def Known : Formula → Prop
  | not f | call _ f => f.Known
  | and l r | or l r | kept _ l r => l.Known ∧ r.Known
  | const _ | var _ | lit _ | emptyCall _ => True
  | unknown _ => False

/-- **The search with a stack finds what the plain recursion meets.**  The right operand is searched first
    and its names are put in front first, so that they end up behind those of the left one. -/
theorem collect_cons {f : Formula} (hf : f.Known) (rest : List Formula) (found : List String) :
    collect (f :: rest) found = collect rest (f.occurrences ++ found) := by
  induction f generalizing rest found with
  | const | lit | emptyCall | var =>
      rw [collect]
      rfl
  | not f ih | call name f ih =>
      rw [collect]
      exact ih hf rest found
  | and l r ihl ihr | or l r ihl ihr | kept op l r ihl ihr =>
      rw [collect, ihr hf.2, ihl hf.1, occurrences, List.append_assoc]
  | unknown text => exact hf.elim

theorem varNames_of_known {f : Formula} (hf : f.Known) : f.varNames = .ok (nameSet f.occurrences) := by
  unfold varNames
  rw [collect_cons hf, collect, List.append_nil]
  rfl

theorem mem_dropRepeats {x : String} {names : List String} : x ∈ dropRepeats names ↔ x ∈ names := by
  fun_induction dropRepeats names with
  | case1 a b rest heq ih =>
      obtain rfl := eq_of_beq heq
      rw [ih]
      simp
  | case2 a b rest hne ih => simp only [List.mem_cons, ih]
  | case3 => exact Iff.rfl

/-- Repeats in an ascending list are neighbours. -/
theorem dropRepeats_ascending {names : List String} (h : names.Pairwise (· ≤ ·)) :
    (dropRepeats names).Pairwise (· < ·) := by
  fun_induction dropRepeats names with
  | case1 a b rest heq ih => exact ih (List.pairwise_cons.mp h).2
  | case2 a b rest hne ih =>
      obtain ⟨ha, hrest⟩ := List.pairwise_cons.mp h
      have hab : a < b := by
        refine lt_of_le_of_ne (ha b List.mem_cons_self) ?_
        rintro rfl
        exact hne (beq_self_eq_true a)
      refine List.pairwise_cons.mpr ⟨fun x hx => ?_, ih hrest⟩
      rcases List.mem_cons.mp (mem_dropRepeats.mp hx) with rfl | hx
      · exact hab
      · exact lt_of_lt_of_le hab ((List.pairwise_cons.mp hrest).1 x hx)
  | case3 names hshort =>
      match names, hshort with
      | [], _ => exact .nil
      | [a], _ => exact List.pairwise_singleton _ a
      | a :: b :: rest, hshort => exact absurd rfl (hshort a b rest)

theorem mem_nameSet {x : String} {names : List String} : x ∈ nameSet names ↔ x ∈ names := by
  unfold nameSet
  rw [mem_dropRepeats, List.mem_mergeSort]

/-- **Names are listed in ascending order, each once.** -/
theorem nameSet_ascending (names : List String) : (nameSet names).Pairwise (· < ·) := by
  have htrans : ∀ a b c : String, decide (a ≤ b) = true → decide (b ≤ c) = true →
      decide (a ≤ c) = true := by
    intro a b c hab hbc
    exact decide_eq_true ((of_decide_eq_true hab).trans (of_decide_eq_true hbc))
  have htotal : ∀ a b : String, (decide (a ≤ b) || decide (b ≤ a)) = true := by
    intro a b
    rcases le_total a b with hab | hba
    · simp [hab]
    · simp [hba]
  have hsorted := List.pairwise_mergeSort htrans htotal names
  exact dropRepeats_ascending (hsorted.imp of_decide_eq_true)

end Formula

/-! ## The names among tokens -/

namespace Token

/-- Whether a name with the token `next` directly behind it is the name of a call. -/
def isCallName (s : String) (next : Option Token) : Bool :=
  match next with
  | some (.bracket _ opening) => opening
  | some (.name _ _) => s == Expr.definedName
  | _ => false

/-- The names among the tokens that are not those of calls, in their order. -/
def plainNames : List Token → List String
  | [] => []
  | .name _ s :: ts => if isCallName s ts.head? then plainNames ts else s :: plainNames ts
  | _ :: ts => plainNames ts

/-- The name `x` stands among the tokens and is not that of a call. -/
def NamedPlainly (x : String) (ts : List Token) : Prop :=
  ∃ before p after, ts = before ++ .name p x :: after ∧ isCallName x after.head? = false

theorem namedPlainly_cons_iff {x : String} {t : Token} {ts : List Token} :
    NamedPlainly x (t :: ts) ↔ (∃ p, t = .name p x ∧ isCallName x ts.head? = false) ∨ NamedPlainly x ts := by
  constructor
  · rintro ⟨before, p, after, heq, hplain⟩
    cases before with
    | nil =>
        obtain ⟨rfl, rfl⟩ := List.cons.inj heq
        exact .inl ⟨p, rfl, hplain⟩
    | cons b before =>
        obtain ⟨rfl, rfl⟩ := List.cons.inj heq
        exact .inr ⟨before, p, after, rfl, hplain⟩
  · rintro (⟨p, rfl, hplain⟩ | ⟨before, p, after, rfl, hplain⟩)
    · exact ⟨[], p, ts, rfl, hplain⟩
    · exact ⟨t :: before, p, after, rfl, hplain⟩

/-- The list has the names that stand plainly among the tokens. -/
theorem mem_plainNames {x : String} {ts : List Token} : x ∈ plainNames ts ↔ NamedPlainly x ts := by
  fun_induction plainNames ts with
  | case1 =>
      constructor
      · intro h
        cases h
      · rintro ⟨before, p, after, heq, -⟩
        cases before <;> cases heq
  | case2 p s ts hcall ih =>
      rw [namedPlainly_cons_iff, ih]
      refine ⟨.inr, ?_⟩
      rintro (⟨q, hname, hplain⟩ | h)
      · cases hname
        rw [hcall] at hplain
        cases hplain
      · exact h
  | case3 p s ts hplain ih =>
      rw [namedPlainly_cons_iff, List.mem_cons, ih]
      refine or_congr_left ⟨?_, ?_⟩
      · rintro rfl
        exact ⟨p, rfl, Bool.eq_false_iff.mpr hplain⟩
      · rintro ⟨q, hname, -⟩
        cases hname
        rfl
  | case4 t ts hname ih =>
      rw [namedPlainly_cons_iff, ih]
      refine ⟨.inr, ?_⟩
      rintro (⟨q, rfl, -⟩ | h)
      · exact absurd rfl (hname q x)
      · exact h

end Token

/-! ## The formula of a derivation -/

namespace Condition

open Formula

/-- The formula of a unary operator has the names of its operand. -/
theorem occurrences_unary {op : Operator} {a : Expr} {pos : Option Int} {linux : Bool} {f : Formula}
    (h : extended linux (.unary op a pos) = .ok f) :
    ∃ g, extended linux a = .ok g ∧ (g.Known → f.Known) ∧ f.occurrences = g.occurrences := by
  rw [extended] at h
  split at h
  · obtain ⟨g, hg, rfl⟩ := Token.map_eq_ok h
    exact ⟨g, hg, id, rfl⟩
  · cases hneg : negatedNumber? op a with
    | none =>
        rw [hneg] at h
        cases h
    | some v =>
        rw [hneg] at h
        cases h
        obtain ⟨-, p, rfl⟩ := negatedNumber?_eq_some hneg
        refine ⟨.lit v.plain, ?_, fun _ => trivial, rfl⟩
        rw [extended]

/-- The formula of a call has the names of its argument.  Only `defined` is a test here. -/
theorem occurrences_call {name : String} {a : Expr} {pos : Option Int} {f : Formula}
    (h : extended false (.call name a pos) = .ok f) :
    ∃ g, extended false a = .ok g ∧ (g.Known → f.Known) ∧ f.occurrences = g.occurrences := by
  rw [extended] at h
  split at h
  · rename_i t ht
    obtain ⟨x, hx, rfl⟩ := Token.map_eq_ok h
    obtain ⟨q, ha⟩ := testedVariable_eq_ok hx
    cases ha
    have htest : t = .defined := by
      unfold ConfigTest.ofName? at ht
      split at ht
      · exact (Option.some.inj ht).symm
      · cases ht
    subst htest
    refine ⟨.var x, ?_, id, rfl⟩
    rw [extended]
  · obtain ⟨g, hg, rfl⟩ := Token.map_eq_ok h
    exact ⟨g, hg, id, rfl⟩

/-- A call with empty brackets has no names. -/
theorem occurrences_emptyCall {name : String} {pos : Option Int} {linux : Bool} {f : Formula}
    (h : extended linux (.emptyCall name pos) = .ok f) : f.Known ∧ f.occurrences = [] := by
  rw [extended] at h
  split at h
  · obtain ⟨x, hx, -⟩ := Token.map_eq_ok h
    cases hx
  · cases h
    exact ⟨trivial, rfl⟩

theorem occurrences_joinKept (op : Operator) {l r : Formula} (hl : l.Known) (hr : r.Known) :
    (joinKept op l r).Known ∧ (joinKept op l r).occurrences = l.occurrences ++ r.occurrences := by
  unfold joinKept
  split <;> exact ⟨⟨hl, hr⟩, rfl⟩

end Condition

namespace Derivation

open Condition Token

/-- **The names in the formula of a derivation are the plain names among its tokens**, in the same order,
    whatever follows them that makes no call of a name. -/
theorem plainNames_yield {k : Nat} (d : Derivation k) {f : Formula} (hf : extended false d.tree = .ok f)
    {rest : List Token} (hrest : ∀ s, isCallName s rest.head? = false) :
    f.Known ∧ plainNames (d.yield ++ rest) = f.occurrences ++ plainNames rest := by
  induction d generalizing f rest with
  | number p n v =>
      rw [tree, extended] at hf
      cases hf
      exact ⟨trivial, rfl⟩
  | name p s =>
      rw [tree, extended] at hf
      cases hf
      refine ⟨trivial, ?_⟩
      show plainNames (.name p s :: rest) = s :: plainNames rest
      simp only [plainNames, hrest s]
      rfl
  | brackets p d q ih =>
      have hinner : ∀ s, isCallName s (.bracket q false :: rest).head? = false := fun _ => rfl
      rw [yield, List.cons_append, List.append_assoc]
      exact ih hf hinner
  | emptyCall p s q q' =>
      obtain ⟨hknown, hnone⟩ := occurrences_emptyCall hf
      refine ⟨hknown, ?_⟩
      rw [hnone]
      rfl
  | call p s q d q' ih =>
      obtain ⟨g, hg, hknown, hnames⟩ := occurrences_call hf
      have hinner : ∀ s, isCallName s (.bracket q' false :: rest).head? = false := fun _ => rfl
      obtain ⟨hgknown, hplain⟩ := ih hg hinner
      refine ⟨hknown hgknown, ?_⟩
      rw [hnames, yield, List.cons_append, List.cons_append, List.append_assoc]
      exact hplain
  | defined p q s =>
      obtain ⟨g, hg, hknown, hnames⟩ := occurrences_call hf
      rw [extended] at hg
      cases hg
      refine ⟨hknown trivial, ?_⟩
      rw [hnames]
      show plainNames (.name q s :: rest) = s :: plainNames rest
      simp only [plainNames, hrest s]
      rfl
  | prefixed p op hop d ih =>
      obtain ⟨g, hg, hknown, hnames⟩ := occurrences_unary hf
      obtain ⟨hgknown, hplain⟩ := ih hg hrest
      rw [hnames]
      exact ⟨hknown hgknown, hplain⟩
  | postfixed d p op hop ih =>
      obtain ⟨g, hg, hknown, hnames⟩ := occurrences_unary hf
      have hbehind : ∀ s, isCallName s (.operator p op :: rest).head? = false := fun _ => rfl
      obtain ⟨hgknown, hplain⟩ := ih hg hbehind
      rw [hnames, yield, List.append_assoc]
      exact ⟨hknown hgknown, hplain⟩
  | tighter hk d ih => exact ih hf hrest
  | join l p op hop hk r ihl ihr =>
      rw [tree, extended_binary false hop l.leftEdge_tree] at hf
      obtain ⟨g, hg, hf⟩ := bind_eq_ok hf
      obtain ⟨g', hg', hf⟩ := bind_eq_ok hf
      cases hf
      have hbehind : ∀ s, isCallName s (.operator p op :: (r.yield ++ rest)).head? = false := fun _ => rfl
      obtain ⟨hl, hplainl⟩ := ihl hg hbehind
      obtain ⟨hr, hplainr⟩ := ihr hg' hrest
      obtain ⟨hknown, hnames⟩ := occurrences_joinKept op hl hr
      refine ⟨hknown, ?_⟩
      rw [hnames, yield, List.append_assoc, List.cons_append, hplainl, List.append_assoc, ← hplainr]
      rfl

end Derivation

/-! ## The variables of a condition -/

namespace Condition

open Token

/-- **The variables of a condition are its names that are not names of calls**, for every text that the
    extended reading accepts without the tests of the build configuration.  They are listed in ascending
    order, each once. -/
theorem varNames_eq_plain_names [CallStack] {text : String} {f : Formula}
    (h : (interpretExtended false text).result = .ok f) :
    ∃ tokens names, lex text = .ok tokens ∧ f.varNames = .ok names ∧ names.Pairwise (· < ·)
      ∧ ∀ x, x ∈ names ↔ ∃ before p after, tokens = before ++ .name p x :: after
          ∧ isCallName x after.head? = false := by
  obtain ⟨e, hparse, -, hf⟩ := extendedFormula_eq_ok_iff.mp h
  obtain ⟨d, hlex, -, rfl⟩ := Expr.parse_eq_ok_iff.mp hparse
  have hnothing : ∀ s, isCallName s ([] : List Token).head? = false := fun _ => rfl
  obtain ⟨hknown, hplain⟩ := d.plainNames_yield hf hnothing
  rw [List.append_nil] at hplain
  refine ⟨d.yield, _, hlex, Formula.varNames_of_known hknown, Formula.nameSet_ascending _, fun x => ?_⟩
  rw [Formula.mem_nameSet]
  have hmem := @mem_plainNames x d.yield
  rw [hplain, plainNames, List.append_nil] at hmem
  exact hmem

/-- The formula of `defined A && IS_ENABLED(B + A) < defined`, in which the last name is no call. -/
def keptTest : Formula :=
  .and (.var "A") (.kept .lt (.call "IS_ENABLED" (.kept .add (.var "B") (.var "A"))) (.var "defined"))

theorem varNames_eq_plain_names_keptTest :
    (interpretExtended false "defined A && IS_ENABLED(B + A) < defined").result = .ok keptTest
      ∧ keptTest.varNames = .ok ["A", "B", "defined"]
      ∧ ∃ tokens, lex "defined A && IS_ENABLED(B + A) < defined" = .ok tokens
        ∧ ∀ x, x ∈ ["A", "B", "defined"] ↔ ∃ before p after, tokens = before ++ .name p x :: after
          ∧ isCallName x after.head? = false := by
  have hread : (interpretExtended false "defined A && IS_ENABLED(B + A) < defined").result
      = .ok keptTest := by
    cbv
  have hlisted : keptTest.varNames = .ok ["A", "B", "defined"] := by
    cbv
  obtain ⟨tokens, names, hlex, hnames, -, hmem⟩ := varNames_eq_plain_names hread
  rw [hlisted] at hnames
  cases hnames
  exact ⟨hread, hlisted, tokens, hlex, hmem⟩

end Condition

end HashIf
