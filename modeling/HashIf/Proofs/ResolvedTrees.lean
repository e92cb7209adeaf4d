import HashIf.Condition.Interpret
import HashIf.Proofs.Lexing
import HashIf.Proofs.Parsing

/-!
# `HashIf.Proofs.ResolvedTrees`: what a parsed tree looks like

The names of a parsed tree are identifiers, its numbers are numbers that some numeral denotes, and every
operator has as many operands as it takes.  Where offsets do not matter, trees are compared after they
were taken off.

## Contents
- `Expr.Genuine`, `Derivation.genuine_tree`: the names and numbers of a tree.
- `Expr.Bound`, `Derivation.bound_tree`: the operators of a tree and their operands.
- `Expr.WellFormed`, `Expr.wellFormed_of_parse`: the trees of conditions.
- `Expr.unplaced`, `Expr.sameAs_of_unplaced_eq`: trees without offsets.
- `strictFormula_eq_ok_iff`, `extendedFormula_eq_ok_iff`: the readings of a text as readings of its tree.
-/

namespace HashIf

open Token

/-! ## Names and numbers -/

/-- The names of a tree are identifiers and its numbers have numerals. -/
def Expr.Genuine : Expr → Prop
  | .var s _ | .emptyCall s _ => isIdentifier s.toList = true
  | .num v _ => v.Readable
  | .unary _ e _ => e.Genuine
  | .binary _ l r _ => l.Genuine ∧ r.Genuine
  | .call s e _ => isIdentifier s.toList = true ∧ e.Genuine
  | .mark _ _ | .group _ _ => True

/-- A derivation from genuine tokens has a genuine tree. -/
theorem Derivation.genuine_tree {k : Nat} (d : Derivation k) (h : ∀ t ∈ d.yield, t.Genuine) :
    d.tree.Genuine := by
  induction d with
  | number p n v => exact h _ List.mem_cons_self
  | name p s => exact h _ List.mem_cons_self
  | emptyCall p s q q' => exact h (.name p s) List.mem_cons_self
  | defined p q s =>
      obtain ⟨hdefined, hrest⟩ := List.forall_mem_cons.mp h
      exact ⟨hdefined, hrest _ List.mem_cons_self⟩
  | brackets p d q ih =>
      obtain ⟨-, hrest⟩ := List.forall_mem_cons.mp h
      exact ih (List.forall_mem_append.mp hrest).1
  | call p s q d q' ih =>
      obtain ⟨hs, hrest⟩ := List.forall_mem_cons.mp h
      obtain ⟨-, hrest⟩ := List.forall_mem_cons.mp hrest
      exact ⟨hs, ih (List.forall_mem_append.mp hrest).1⟩
  | prefixed p op hop d ih => exact ih (List.forall_mem_cons.mp h).2
  | postfixed d p op hop ih => exact ih (List.forall_mem_append.mp h).1
  | tighter hk d ih => exact ih h
  | join l p op hop hk r ihl ihr =>
      obtain ⟨hl, hrest⟩ := List.forall_mem_append.mp h
      exact ⟨ihl hl, ihr (List.forall_mem_cons.mp hrest).2⟩

/-! ## Operators and operands -/

/-- Every operator is bound to as many operands as it takes, and no group is left. -/
def Expr.Bound : Expr → Prop
  | .var _ _ | .num _ _ | .emptyCall _ _ => True
  | .unary op e _ => op.isUnary = true ∧ e.Bound
  | .binary op l r _ => op.isUnary = false ∧ l.Bound ∧ r.Bound
  | .call _ e _ => e.Bound
  | .mark _ _ | .group _ _ => False

/-- The grammar binds all operators, those behind their operand included. -/
theorem Derivation.bound_tree {k : Nat} (d : Derivation k) : d.tree.Bound := by
  induction d with
  | number | name | emptyCall | defined => trivial
  | brackets p d q ih => exact ih
  | call p s q d q' ih => exact ih
  | prefixed p op hop d ih => exact ⟨hop, ih⟩
  | postfixed d p op hop ih => exact ⟨Operator.isUnary_of_followsOperand hop, ih⟩
  | tighter hk d ih => exact ih
  | join l p op hop hk r ihl ihr => exact ⟨hop, ihl, ihr⟩

/-- A number that some numeral denotes is equal to itself, which no NaN is. -/
theorem Number.Readable.sameValue_self {v : Number} (h : v.Readable) :
    v.sameValue v = true := by
  rcases h.cases with ⟨n, -, rfl⟩ | ⟨m, e, -, hm, -, rfl⟩
  · simp [Number.sameValue]
  · simp [Number.sameValue, Binary64.sameValue, hm.ne']

namespace Expr

/-- A tree of a condition: identifiers, numbers with a numeral, and operators with all their operands. -/
structure WellFormed (e : Expr) : Prop where
  genuine : e.Genuine
  bound : e.Bound

/-- **Parsed trees are well-formed.** -/
theorem wellFormed_of_parse [CallStack] {text : String} {e : Expr} (h : parse text = .ok e) :
    e.WellFormed := by
  obtain ⟨d, hlex, -, rfl⟩ := parse_eq_ok_iff.mp h
  have htokens := lexFrom_genuine (Token.lex_eq_ok_iff.mp hlex)
  exact ⟨d.genuine_tree htokens, d.bound_tree⟩

/-! ## Trees without offsets -/

mutual

/-- The tree without the offsets of its nodes. -/
def unplaced : Expr → Expr
  | .var s _ => .var s none
  | .num v _ => .num v none
  | .mark op _ => .mark op none
  | .unary op e _ => .unary op e.unplaced none
  | .binary op l r _ => .binary op l.unplaced r.unplaced none
  | .emptyCall s _ => .emptyCall s none
  | .call s e _ => .call s e.unplaced none
  | .group items _ => .group (unplacedItems items) none

/-- The items of a group without their offsets. -/
def unplacedItems : List Expr → List Expr
  | [] => []
  | e :: es => e.unplaced :: unplacedItems es

end

/-- Well-formed trees that differ in offsets only are equal. -/
theorem sameAs_of_unplaced_eq {e e' : Expr} (h : e.WellFormed) (heq : e'.unplaced = e.unplaced) :
    e'.sameAs e = true := by
  obtain ⟨hgenuine, hbound⟩ := h
  induction e generalizing e' with
  | var s p =>
      cases e' <;> simp only [unplaced, reduceCtorEq, var.injEq, and_true] at heq
      subst heq
      simp only [sameAs, beq_self_eq_true]
  | num v p =>
      cases e' <;> simp only [unplaced, reduceCtorEq, num.injEq, and_true] at heq
      subst heq
      rw [sameAs]
      exact Number.Readable.sameValue_self hgenuine
  | emptyCall s p =>
      cases e' <;> simp only [unplaced, reduceCtorEq, emptyCall.injEq, and_true] at heq
      subst heq
      simp only [sameAs, beq_self_eq_true]
  | unary op e p ih =>
      cases e' <;> simp only [unplaced, reduceCtorEq, unary.injEq, and_true] at heq
      obtain ⟨rfl, he⟩ := heq
      simp only [sameAs, beq_self_eq_true, Bool.true_and]
      exact ih he hgenuine hbound.2
  | binary op l r p ihl ihr =>
      cases e' <;> simp only [unplaced, reduceCtorEq, binary.injEq, and_true] at heq
      obtain ⟨rfl, hl, hr⟩ := heq
      simp only [sameAs, beq_self_eq_true, Bool.true_and, Bool.and_eq_true]
      exact ⟨ihl hl hgenuine.1 hbound.2.1, ihr hr hgenuine.2 hbound.2.2⟩
  | call s e p ih =>
      cases e' <;> simp only [unplaced, reduceCtorEq, call.injEq, and_true] at heq
      obtain ⟨rfl, he⟩ := heq
      simp only [sameAs, beq_self_eq_true, Bool.true_and]
      exact ih he hgenuine.2 hbound
  | mark | group => exact hbound.elim

end Expr

namespace Condition

/-! ## Readings of a text -/

theorem shownIn_eq_ok_iff {context : Option String} {r : Except LocatedFault Formula} {f : Formula} :
    shownIn context r = .ok f ↔ r = .ok f := by
  cases r with
  | error fault =>
      constructor
      · intro h
        cases h
      · intro h
        cases h
  | ok g => exact ⟨fun h => by cases h; rfl, fun h => by cases h; rfl⟩

/-- A text has a strict formula exactly if its tree has, and the stack has room for it. -/
theorem strictFormula_eq_ok_iff [S : CallStack] {o : Options} {text : String} {f : Formula} :
    strictFormula o text = .ok f
      ↔ ∃ e, Expr.parse text = .ok e ∧ strictFrames o e ≤ S.frames ∧ strict o e = .ok f := by
  unfold strictFormula
  cases hparse : Expr.parse text with
  | error fault => simp
  | ok e => simp [withinStack, CallStack.within_eq_ok_iff, shownIn_eq_ok_iff]

/-- A text has no strict formula if it has no tree, if the stack has no room for the formula, or if the tree
    has none. -/
theorem strictFormula_eq_error_iff [S : CallStack] {o : Options} {text : String} {f : Failure} :
    strictFormula o text = .error f ↔ Expr.parse text = .error f
      ∨ ∃ e fault, Expr.parse text = .ok e ∧ f = .rejected (.ofLocated (some text) fault)
        ∧ (S.frames < strictFrames o e ∧ fault = ⟨.conditionTooDeep, none⟩
          ∨ strictFrames o e ≤ S.frames ∧ strict o e = .error fault) := by
  unfold strictFormula
  cases hparse : Expr.parse text with
  | error fault => simp
  | ok e =>
      simp only [withinStack, CallStack.within]
      split
      · rename_i hdeep
        simp [hdeep, Nat.not_le.mpr hdeep, eq_comm]
      · rename_i hroom
        simp [hroom, Nat.not_lt.mp hroom, shownIn_eq_error_iff, and_comm]

/-- A text has an extended formula exactly if its tree has, and the stack has room for it. -/
theorem extendedFormula_eq_ok_iff [S : CallStack] {linux : Bool} {text : String} {f : Formula} :
    extendedFormula linux text = .ok f
      ↔ ∃ e, Expr.parse text = .ok e ∧ extendedFrames linux e ≤ S.frames ∧ extended linux e = .ok f := by
  unfold extendedFormula
  cases hparse : Expr.parse text with
  | error fault => simp
  | ok e => simp [withinStack, CallStack.within_eq_ok_iff, shownIn_eq_ok_iff]

/-- Where invalid conditions are refused, a reading is that of the tree. -/
theorem interpretStrict_refuse [CallStack] {o : Options} (ho : o.invalid = .refuse) (text : String) :
    (interpretStrict o text).result = strictFormula o text := by
  unfold interpretStrict underPolicy
  rw [ho]
  split
  · rename_i r hr
    rw [hr]
    rfl
  · rfl

end Condition

end HashIf
