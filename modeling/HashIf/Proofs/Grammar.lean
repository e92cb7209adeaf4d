import HashIf.Expr.Calls
import HashIf.Token
import HashIf.Proofs.Looseness

/-!
# `HashIf.Proofs.Grammar`: the grammar of conditions

The language of conditions as a grammar over tokens, with nothing in it of bracket stacks, call
merging or cuts.  Level `k` from `1` to `10` is `Bₖ ::= Bₖ₊₁ | Bₖ op Bₖ₊₁` with `op` a binary operator
of precedence `k`; level `11` is `U ::= P | pre P | U post`; level `12` is
`P ::= number | name | ( B₁ ) | name ( ) | name ( B₁ ) | defined name`.

A derivation is a value, so that two of them can be compared: the grammar is unambiguous, because
the operators outside of all brackets tell which rule was used last and where.

## Contents
- `Derivation`, `Derivation.yield`, `Derivation.tree`: derivations, their tokens and their trees.
- `depthAfter`, `exposed`: what brackets leave open, and the operators outside of all brackets.
- `Derivation.exposed_tight`: at level `k` no exposed operator is looser than `k`.
- `Derivation.eq_of_yield_eq`: derivations with the same tokens are equal.
-/

namespace HashIf

/-! ## Derivations -/

/-- A derivation from level `k` of the grammar, down to tokens with their offsets. -/
inductive Derivation : Nat → Type where
  | number (p length : Nat) (v : Number) : Derivation 12
  | name (p : Nat) (s : String) : Derivation 12
  | brackets (p : Nat) (d : Derivation 1) (q : Nat) : Derivation 12
  | emptyCall (p : Nat) (s : String) (q q' : Nat) : Derivation 12
  | call (p : Nat) (s : String) (q : Nat) (d : Derivation 1) (q' : Nat) : Derivation 12
  | defined (p q : Nat) (s : String) : Derivation 12
  | prefixed (p : Nat) (op : Operator) (hop : op.isUnary = true) (d : Derivation 12) : Derivation 11
  | postfixed (d : Derivation 11) (p : Nat) (op : Operator) (hop : op.followsOperand = true) :
      Derivation 11
  | tighter {k : Nat} (hk : k ≤ 11) (d : Derivation (k + 1)) : Derivation k
  | join {k : Nat} (l : Derivation k) (p : Nat) (op : Operator) (hop : op.isUnary = false)
      (hk : op.precedence = k) (r : Derivation (k + 1)) : Derivation k

namespace Derivation

/-- The tokens of a derivation. -/
def yield {k : Nat} : Derivation k → List Token
  | number p n v => [.number p n v]
  | name p s => [.name p s]
  | brackets p d q => .bracket p true :: (d.yield ++ [.bracket q false])
  | emptyCall p s q q' => [.name p s, .bracket q true, .bracket q' false]
  | call p s q d q' => .name p s :: .bracket q true :: (d.yield ++ [.bracket q' false])
  | defined p q s => [.name p Expr.definedName, .name q s]
  | prefixed p op _ d => .operator p op :: d.yield
  | postfixed d p op _ => d.yield ++ [.operator p op]
  | tighter _ d => d.yield
  | join l p op _ _ r => l.yield ++ .operator p op :: r.yield

/-- The tree of a derivation.  Brackets leave no trace, and `defined` in front of a name is a call. -/
def tree {k : Nat} : Derivation k → Expr
  | number p _ v => .num v (some p)
  | name p s => .var s (some p)
  | brackets _ d _ => d.tree
  | emptyCall p s _ _ => .emptyCall s (some p)
  | call p s _ d _ => .call s d.tree (some p)
  | defined p q s => .call Expr.definedName (.var s (some q)) (some p)
  | prefixed p op _ d => .unary op d.tree (some p)
  | postfixed d p op _ => .unary op d.tree (some p)
  | tighter _ d => d.tree
  | join l p op _ _ r => .binary op l.tree r.tree (some p)

theorem yield_ne_nil {k : Nat} (d : Derivation k) : d.yield ≠ [] := by
  induction d with
  | postfixed | join => exact List.append_ne_nil_of_right_ne_nil _ (List.cons_ne_nil _ _)
  | tighter _ _ ih => exact ih
  | _ => exact List.cons_ne_nil _ _

/-- A derivation at a tight level is one at every looser level. -/
def lower {m : Nat} (j : Nat) (hjm : j ≤ m) (hm : m ≤ 12) (d : Derivation m) : Derivation j :=
  if h : j = m then h ▸ d else tighter (by omega) (lower (j + 1) (by omega) hm d)
termination_by m - j

@[simp] theorem yield_lower {j m : Nat} (hjm : j ≤ m) (hm : m ≤ 12) (d : Derivation m) :
    (d.lower j hjm hm).yield = d.yield := by
  fun_induction lower j hjm hm d with
  | case1 => rfl
  | case2 j hjm h ih => exact ih

@[simp] theorem tree_lower {j m : Nat} (hjm : j ≤ m) (hm : m ≤ 12) (d : Derivation m) :
    (d.lower j hjm hm).tree = d.tree := by
  fun_induction lower j hjm hm d with
  | case1 => rfl
  | case2 j hjm h ih => exact ih

end Derivation

/-! ## Operators outside of all brackets -/

/-- How many brackets are open behind the tokens if `n` are open in front of them. -/
def depthAfter (n : Nat) : List Token → Nat
  | [] => n
  | .bracket _ true :: ts => depthAfter (n + 1) ts
  | .bracket _ false :: ts => depthAfter (n - 1) ts
  | _ :: ts => depthAfter n ts

/-- The operators outside of all brackets if `n` brackets are open in front. -/
def exposed (n : Nat) : List Token → List Operator
  | [] => []
  | .bracket _ true :: ts => exposed (n + 1) ts
  | .bracket _ false :: ts => exposed (n - 1) ts
  | .operator _ op :: ts => if n = 0 then op :: exposed n ts else exposed n ts
  | _ :: ts => exposed n ts

theorem depthAfter_append (n : Nat) (ts us : List Token) :
    depthAfter n (ts ++ us) = depthAfter (depthAfter n ts) us := by
  fun_induction depthAfter n ts with
  | case1 => rfl
  | case2 n p ts ih => exact ih
  | case3 n p ts ih => exact ih
  | case4 n t ts ho hc ih =>
      rw [List.cons_append, depthAfter]
      · exact ih
      · exact ho
      · exact hc

theorem exposed_append (n : Nat) (ts us : List Token) :
    exposed n (ts ++ us) = exposed n ts ++ exposed (depthAfter n ts) us := by
  fun_induction exposed n ts with
  | case1 => rfl
  | case2 n p ts ih => exact ih
  | case3 n p ts ih => exact ih
  | case4 p op ts ih =>
      simp only [List.cons_append, exposed, depthAfter, if_true]
      rw [ih]
  | case5 n p op ts hn ih =>
      simp only [List.cons_append, exposed, depthAfter, if_neg hn]
      exact ih
  | case6 n t ts ho hc hop ih =>
      rw [List.cons_append, exposed, depthAfter]
      · exact ih
      all_goals assumption

namespace Derivation

/-- A derivation closes all the brackets that it opens, and no others. -/
@[simp] theorem depthAfter_yield {k : Nat} (d : Derivation k) (n : Nat) : depthAfter n d.yield = n := by
  induction d generalizing n with
  | number | name | emptyCall | defined => rfl
  | brackets p d q ih =>
      simp only [yield, depthAfter, depthAfter_append, ih]
      rfl
  | call p s q d q' ih =>
      simp only [yield, depthAfter, depthAfter_append, ih]
      rfl
  | prefixed p op hop d ih => exact ih n
  | postfixed d p op hop ih => simp only [yield, depthAfter_append, ih, depthAfter]
  | tighter hk d ih => exact ih n
  | join l p op hop hk r ihl ihr => simp only [yield, depthAfter_append, ihl, depthAfter, ihr]

/-- Inside of brackets nothing is exposed. -/
theorem exposed_succ_yield {k : Nat} (d : Derivation k) (n : Nat) : exposed (n + 1) d.yield = [] := by
  induction d generalizing n with
  | number | name | emptyCall | defined => rfl
  | brackets p d q ih =>
      simp only [yield, exposed, exposed_append, ih, List.append_nil]
  | call p s q d q' ih =>
      simp only [yield, exposed, exposed_append, ih, List.append_nil]
  | prefixed p op hop d ih => exact ih n
  | postfixed d p op hop ih =>
      simp only [yield, exposed_append, ih, depthAfter_yield, exposed]
      rfl
  | tighter hk d ih => exact ih n
  | join l p op hop hk r ihl ihr =>
      simp only [yield, exposed_append, ihl, depthAfter_yield, exposed, ihr]
      rfl

/-- **At level `k` no exposed operator is looser than `k`.** -/
theorem exposed_tight {k : Nat} (d : Derivation k) :
    ∀ op ∈ exposed 0 d.yield, k ≤ op.precedence := by
  induction d with
  | number | name | emptyCall | defined =>
      intro o ho
      cases ho
  | brackets p d q ih =>
      intro o ho
      simp only [yield, exposed, exposed_append, exposed_succ_yield, List.append_nil] at ho
      cases ho
  | call p s q d q' ih =>
      intro o ho
      simp only [yield, exposed, exposed_append, exposed_succ_yield, List.append_nil] at ho
      cases ho
  | prefixed p op hop d ih =>
      intro o ho
      simp only [yield, exposed, if_true] at ho
      rcases List.mem_cons.mp ho with rfl | ho
      · exact Nat.le_of_eq (Operator.isUnary_iff.mp hop).symm
      · exact Nat.le_trans (by omega) (ih o ho)
  | postfixed d p op hop ih =>
      intro o ho
      simp only [yield, exposed_append, depthAfter_yield, exposed, if_true] at ho
      rcases List.mem_append.mp ho with ho | ho
      · exact ih o ho
      · rw [List.mem_singleton.mp ho]
        exact Nat.le_of_eq (Operator.isUnary_iff.mp (Operator.isUnary_of_followsOperand hop)).symm
  | tighter hk d ih =>
      intro o ho
      exact Nat.le_trans (by omega) (ih o ho)
  | join l p op hop hk r ihl ihr =>
      intro o ho
      simp only [yield, exposed_append, depthAfter_yield, exposed, if_true] at ho
      rcases List.mem_append.mp ho with ho | ho
      · exact ihl o ho
      · rcases List.mem_cons.mp ho with rfl | ho
        · exact Nat.le_of_eq hk.symm
        · exact Nat.le_trans (by omega) (ihr o ho)

/-! ## Unambiguity -/

/-- An operator with all brackets closed in front of it is exposed. -/
theorem mem_exposed {ts : List Token} (us : List Token) (p : Nat) (op : Operator)
    (h : depthAfter 0 ts = 0) : op ∈ exposed 0 (ts ++ .operator p op :: us) := by
  rw [exposed_append, h]
  exact List.mem_append_right _ (by simp [exposed])

/-- The last join of a level cannot lie further to the right: its operator would be exposed in the
    right operand of the other one, which is tighter. -/
theorem no_later_join {k : Nat} {l l' : Derivation k} {r r' : Derivation (k + 1)} {p p' : Nat}
    {op op' : Operator} (hk' : op'.precedence = k) {t : Token} {ts : List Token}
    (hl : l'.yield = l.yield ++ t :: ts)
    (hr : .operator p op :: r.yield = t :: ts ++ .operator p' op' :: r'.yield) : False := by
  rw [List.cons_append] at hr
  obtain ⟨rfl, hyield⟩ := List.cons.inj hr
  have hdepth : depthAfter 0 ts = 0 := by
    have h := congrArg (depthAfter 0) hl
    simp only [depthAfter_append, depthAfter_yield, depthAfter] at h
    exact h.symm
  have hmem := mem_exposed r'.yield p' op' hdepth
  rw [← hyield] at hmem
  have := r.exposed_tight op' hmem
  omega

/-- Joins of one level with the same tokens have the same operands. -/
theorem join_yield_inj {k : Nat} {l l' : Derivation k} {r r' : Derivation (k + 1)} {p p' : Nat}
    {op op' : Operator} (hk : op.precedence = k) (hk' : op'.precedence = k)
    (h : l.yield ++ .operator p op :: r.yield = l'.yield ++ .operator p' op' :: r'.yield) :
    l.yield = l'.yield ∧ p = p' ∧ op = op' ∧ r.yield = r'.yield := by
  rcases List.append_eq_append_iff.mp h with ⟨ts, hl, hr⟩ | ⟨ts, hl, hr⟩
  · cases ts with
    | nil =>
        rw [List.append_nil] at hl
        obtain ⟨hop, hyield⟩ := List.cons.inj hr
        cases hop
        exact ⟨hl.symm, rfl, rfl, hyield⟩
    | cons t ts => exact (no_later_join hk' hl hr).elim
  · cases ts with
    | nil =>
        rw [List.append_nil] at hl
        obtain ⟨hop, hyield⟩ := List.cons.inj hr
        cases hop
        exact ⟨hl, rfl, rfl, hyield.symm⟩
    | cons t ts => exact (no_later_join hk hl hr).elim

/-- A derivation that only steps down a level exposes no operator of its own level. -/
theorem tighter_yield_ne {k : Nat} (d : Derivation (k + 1)) {ts us : List Token} {p : Nat}
    {op : Operator} (hop : op.precedence ≤ k) (hts : depthAfter 0 ts = 0) :
    d.yield ≠ ts ++ .operator p op :: us := by
  intro h
  have hmem := mem_exposed us p op hts
  rw [← h] at hmem
  have := d.exposed_tight op hmem
  omega

/-- A primary does not start with an operator. -/
theorem primary_yield_ne_cons (d : Derivation 12) (p : Nat) (op : Operator) (us : List Token) :
    d.yield ≠ .operator p op :: us := by
  have := op.precedence_le
  exact @tighter_yield_ne 11 d [] us p op this rfl

/-- A primary does not end with an operator. -/
theorem primary_yield_ne_concat (d : Derivation 12) {k : Nat} (u : Derivation k) (p : Nat)
    (op : Operator) : d.yield ≠ u.yield ++ [.operator p op] := by
  have := op.precedence_le
  exact @tighter_yield_ne 11 d u.yield [] p op this (u.depthAfter_yield 0)

/-- One operator in front of a primary is not one behind an operand: the operand would start with the
    one in front, and the one behind would be exposed in the primary. -/
theorem prefixed_yield_ne {p p' : Nat} {op op' : Operator} (d : Derivation 12) (u : Derivation 11) :
    .operator p op :: d.yield ≠ u.yield ++ [.operator p' op'] := by
  intro h
  cases hu : u.yield with
  | nil => exact u.yield_ne_nil hu
  | cons t ts =>
      rw [hu, List.cons_append] at h
      obtain ⟨rfl, hyield⟩ := List.cons.inj h
      have hdepth : depthAfter 0 ts = 0 := by
        have h' := congrArg (depthAfter 0) hu
        simp only [depthAfter_yield, depthAfter] at h'
        exact h'.symm
      exact tighter_yield_ne (k := 11) d op'.precedence_le hdepth hyield

theorem append_bracket_inj {ts us : List Token} {q q' : Nat}
    (h : ts ++ [.bracket q false] = us ++ [.bracket q' false]) : ts = us ∧ q = q' := by
  obtain ⟨hts, hq⟩ := List.append_inj' h rfl
  cases hq
  exact ⟨hts, rfl⟩

/-- **The grammar is unambiguous**: a derivation is determined by its tokens.  The first token tells
    the primaries apart; above them, the exposed operators tell which rule was used last. -/
theorem eq_of_yield_eq {k : Nat} (d d' : Derivation k) (h : d.yield = d'.yield) : d = d' := by
  have hjoin : ∀ {op : Operator}, op.precedence = 12 → False := by
    intro op hop
    have := op.precedence_le
    omega
  induction d with
  -- Primaries differ in their first token, or in what stands behind a name.
  | number p n v =>
      cases d' with
      | number => cases h; rfl
      | tighter hk => omega
      | join _ _ _ _ hk => exact (hjoin hk).elim
      | _ => cases h
  | name p s =>
      cases d' with
      | name => cases h; rfl
      | tighter hk => omega
      | join _ _ _ _ hk => exact (hjoin hk).elim
      | _ => cases h
  | emptyCall p s q q' =>
      cases d' with
      | emptyCall => cases h; rfl
      | call p' s' q₁ d₁ q₁' =>
          -- Between the brackets of the other call there is at least one token.
          have hlen := congrArg List.length h
          have := List.length_pos_iff.mpr d₁.yield_ne_nil
          simp only [yield, List.length_cons, List.length_append, List.length_nil] at hlen
          omega
      | tighter hk => omega
      | join _ _ _ _ hk => exact (hjoin hk).elim
      | _ => cases h
  | defined p q s =>
      cases d' with
      | defined => cases h; rfl
      | tighter hk => omega
      | join _ _ _ _ hk => exact (hjoin hk).elim
      | _ => cases h
  | brackets p d q ih =>
      cases d' with
      | brackets p' d' q' =>
          obtain ⟨hp, hrest⟩ := List.cons.inj h
          obtain ⟨hyield, rfl⟩ := append_bracket_inj hrest
          cases hp
          rw [ih d' hyield]
      | tighter hk => omega
      | join _ _ _ _ hk => exact (hjoin hk).elim
      | _ => cases h
  | call p s q d q' ih =>
      cases d' with
      | call p₁ s₁ q₁ d₁ q₁' =>
          obtain ⟨hp, hrest⟩ := List.cons.inj h
          obtain ⟨hq, hrest⟩ := List.cons.inj hrest
          obtain ⟨hyield, rfl⟩ := append_bracket_inj hrest
          cases hp
          cases hq
          rw [ih d₁ hyield]
      | emptyCall =>
          have hlen := congrArg List.length h
          have := List.length_pos_iff.mpr d.yield_ne_nil
          simp only [yield, List.length_cons, List.length_append, List.length_nil] at hlen
          omega
      | tighter hk => omega
      | join _ _ _ _ hk => exact (hjoin hk).elim
      | _ => cases h
  -- From here on the exposed operators decide.
  | prefixed p op hop d ih =>
      cases d' with
      | prefixed p' op' hop' d' =>
          obtain ⟨hp, hyield⟩ := List.cons.inj h
          cases hp
          rw [ih d' hyield]
      | postfixed u p' op' hop' => exact absurd h (prefixed_yield_ne d u)
      | tighter hk d' => exact absurd h.symm (primary_yield_ne_cons d' p op _)
      | join _ _ op' hop' hk =>
          have := Operator.precedence_of_binary hop'
          omega
  | postfixed d p op hop ih =>
      cases d' with
      | prefixed p' op' hop' d' => exact absurd h.symm (prefixed_yield_ne d' d)
      | postfixed u p' op' hop' =>
          obtain ⟨hyield, hp⟩ := List.append_inj' h rfl
          cases hp
          rw [ih u hyield]
      | tighter hk d' => exact absurd h.symm (primary_yield_ne_concat d' d p op)
      | join _ _ op' hop' hk =>
          have := Operator.precedence_of_binary hop'
          omega
  | tighter hk d ih =>
      cases d' with
      | tighter hk' d' => rw [ih d' h]
      | prefixed p op hop d' => exact absurd h (primary_yield_ne_cons d p op _)
      | postfixed u p op hop => exact absurd h (primary_yield_ne_concat d u p op)
      | join l p op hop hk' r =>
          exact absurd h (d.tighter_yield_ne (Nat.le_of_eq hk') (l.depthAfter_yield 0))
      | _ => omega
  | join l p op hop hk r ihl ihr =>
      cases d' with
      | join l' p' op' hop' hk' r' =>
          obtain ⟨hl, rfl, rfl, hr⟩ := join_yield_inj hk hk' h
          rw [ihl l' hl, ihr r' hr]
      | tighter hk' d' =>
          exact absurd h.symm (d'.tighter_yield_ne (Nat.le_of_eq hk) (l.depthAfter_yield 0))
      | prefixed | postfixed =>
          have := Operator.precedence_of_binary hop
          omega
      | _ => exact (hjoin hk).elim

end Derivation

end HashIf
