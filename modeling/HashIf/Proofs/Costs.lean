import HashIf.Proofs.Grammar

/-!
# `HashIf.Proofs.Costs`: what a derivation costs the parser

How deeply brackets are nested, and how many frames the recursions of the parser need, are told by the
rules that a derivation uses.  Brackets cost two frames in both recursions.  A unary operator costs two
frames where operators are bound, on either side of its operand; so does a binary operator, except that
the operators of one chain share theirs.  A call costs one frame there, and two more if its argument is
more than one item, which is then kept as a group.

Between two brackets there is room for one chain of each level, an operator in front of an operand and any
number of step operators behind it.  So brackets and step operators together bound the frames.

## Contents
- `Form`, `Cost`: what the frames around a part of a condition depend on.
- `Cost.brackets`, `Cost.call`, `Cost.unary`, `Cost.join`: the rules of the grammar, on costs.
- `Cost.frames`: the frames that the parser needs.
- `Derivation.cost`, `Derivation.frames`: the cost of a derivation.
- `Cost.Covered`, `Derivation.covered`: frames, by brackets and step operators.
- `bracketDepth`, `Derivation.bracketDepth_yield`: the nesting of brackets, on tokens.
- `Derivation.frames_le`: the frames of a condition, by its tokens.
-/

namespace HashIf

/-! ## Costs -/

/-- The form of a part of a condition. -/
inductive Form where
  /-- A number, a name or brackets. -/
  | bare
  /-- A name with the argument behind it, which is one item once it is joined. -/
  | call
  /-- An operand with a unary operator. -/
  | unary
  /-- Operands with binary operators of one level between them. -/
  | chain (level : Nat)
  deriving DecidableEq

/-- Whether the part is a single item once calls are joined. -/
def Form.isSingle : Form → Bool
  | .bare | .call => true
  | _ => false

/-- The level of a part of a given form. -/
def Form.level : Form → Nat
  | .bare | .call => 12
  | .unary => 11
  | .chain k => k

/-- At the levels of binary operators, a part that is no chain of a level is tighter. -/
theorem Form.lt_level {form : Form} {k : Nat} (h : k ≤ form.level) (hk : k ≤ 10) (hne : form ≠ .chain k) :
    k < form.level := by
  cases form with
  | bare | call | unary => exact Nat.lt_of_le_of_lt hk (by decide)
  | chain j =>
      refine Nat.lt_of_le_of_ne h ?_
      rintro rfl
      exact hne rfl

/-- What a part of a condition costs: how deeply its brackets are nested, and the frames that joining its
    calls and binding its operators need. -/
structure Cost where
  nesting : Nat
  joins : Nat
  binds : Nat
  form : Form
  deriving DecidableEq

namespace Cost

/-- A number or a name. -/
def atom : Cost := ⟨0, 1, 2, .bare⟩

/-- A call with empty brackets. -/
def emptyCall : Cost := ⟨1, 2, 2, .call⟩

/-- `defined` in front of a name. -/
def defined : Cost := ⟨0, 1, 3, .call⟩

/-- Brackets around a part. -/
def brackets (c : Cost) : Cost := ⟨c.nesting + 1, c.joins + 2, c.binds + 2, .bare⟩

/-- The frames of a part that stands as one item, with brackets if it needs them for that. -/
def singleBinds (c : Cost) : Nat := if c.form.isSingle then c.binds else c.binds + 2

/-- A call with a part as its argument. -/
def call (c : Cost) : Cost := ⟨c.nesting + 1, c.joins + 2, c.singleBinds + 1, .call⟩

/-- A unary operator with a part as its operand. -/
def unary (c : Cost) : Cost := ⟨c.nesting, c.joins, c.binds + 2, .unary⟩

/-- The frames of a part as the left operand of level `k`, those of the operator included: a chain of this
    level goes on. -/
def chainBinds (k : Nat) (c : Cost) : Nat := if c.form = .chain k then c.binds else c.binds + 2

/-- A binary operator of level `k` between two parts. -/
def join (k : Nat) (l r : Cost) : Cost :=
  ⟨max l.nesting r.nesting, max l.joins r.joins, max (l.chainBinds k) (r.binds + 2), .chain k⟩

/-- The frames that the parser needs for a whole condition.  A condition that is more than one item is
    taken as if it stood in brackets. -/
def frames (c : Cost) : Nat :=
  if c.form = .bare then max (c.joins + 1) c.binds else max (c.joins + 3) (c.binds + 2)

theorem singleBinds_le (c : Cost) : c.singleBinds ≤ c.binds + 2 := by
  unfold singleBinds
  split <;> omega

theorem le_singleBinds (c : Cost) : c.binds ≤ c.singleBinds := by
  unfold singleBinds
  split <;> omega

theorem chainBinds_le (k : Nat) (c : Cost) : c.chainBinds k ≤ c.binds + 2 := by
  unfold chainBinds
  split <;> omega

theorem chainBinds_of_ne {k : Nat} {c : Cost} (h : c.form ≠ .chain k) : c.chainBinds k = c.binds + 2 :=
  if_neg h

theorem frames_le (c : Cost) : c.frames ≤ max (c.joins + 3) (c.binds + 2) := by
  unfold frames
  split <;> omega

theorem le_frames (c : Cost) : max (c.joins + 1) c.binds ≤ c.frames := by
  unfold frames
  split <;> omega

theorem frames_of_ne_bare {c : Cost} (h : c.form ≠ .bare) :
    c.frames = max (c.joins + 3) (c.binds + 2) :=
  if_neg h

end Cost

/-! ## Costs of derivations -/

namespace Derivation

/-- The cost of a derivation. -/
def cost {k : Nat} : Derivation k → Cost
  | number _ _ _ | name _ _ => .atom
  | brackets _ d _ => d.cost.brackets
  | emptyCall _ _ _ _ => .emptyCall
  | call _ _ _ d _ => d.cost.call
  | defined _ _ _ => .defined
  | prefixed _ _ _ d | postfixed d _ _ _ => d.cost.unary
  | tighter _ d => d.cost
  | join l _ op _ _ r => Cost.join op.precedence l.cost r.cost

/-- The frames that the parser needs for a derivation. -/
def frames {k : Nat} (d : Derivation k) : Nat := d.cost.frames

@[simp] theorem cost_lower {j m : Nat} (hjm : j ≤ m) (hm : m ≤ 12) (d : Derivation m) :
    (d.lower j hjm hm).cost = d.cost := by
  fun_induction lower j hjm hm d with
  | case1 => rfl
  | case2 j hjm h ih => exact ih

/-- A derivation stands at its own level or at a tighter one. -/
theorem le_level {k : Nat} (d : Derivation k) : k ≤ d.cost.form.level := by
  induction d with
  | number | name | brackets | emptyCall | call | defined => exact Nat.le_refl 12
  | prefixed | postfixed => exact Nat.le_refl 11
  | tighter hk d ih => exact Nat.le_of_succ_le ih
  | join l p op hop hk r => exact Nat.le_of_eq hk.symm

theorem form_ne_chain {k : Nat} (d : Derivation (k + 1)) : d.cost.form ≠ .chain k := by
  intro hform
  have hlevel := d.le_level
  rw [hform] at hlevel
  exact Nat.not_succ_le_self k hlevel

theorem two_le_binds {k : Nat} (d : Derivation k) : 2 ≤ d.cost.binds := by
  induction d with
  | number | name | emptyCall => exact Nat.le_refl 2
  | defined => exact Nat.le_succ 2
  | brackets p d q ih => exact Nat.le_add_left 2 _
  | call p s q d q' ih =>
      simp only [cost, Cost.call, Cost.singleBinds]
      split <;> omega
  | prefixed p op hop d ih => exact Nat.le_add_left 2 _
  | postfixed d p op hop ih => exact Nat.le_add_left 2 _
  | tighter hk d ih => exact ih
  | join l p op hop hk r ihl ihr =>
      simp only [cost, Cost.join]
      omega

theorem one_le_joins {k : Nat} (d : Derivation k) : 1 ≤ d.cost.joins := by
  induction d with
  | number | name | defined => exact Nat.le_refl 1
  | emptyCall => exact Nat.le_succ 1
  | join l p op hop hk r ihl ihr =>
      simp only [cost, Cost.join]
      omega
  | brackets | call => exact Nat.le_add_left 1 _
  | _ => assumption

end Derivation

/-! ## Frames by brackets and step operators -/

/-- The part fits at level `k`, and its frames are bounded by its brackets, by the levels below its own and
    by `n` step operators. -/
structure Cost.Covered (k n : Nat) (c : Cost) : Prop where
  level_le : k ≤ c.form.level
  joins_le : c.joins ≤ 2 * c.nesting + 1
  binds_le : c.binds + 2 * c.form.level ≤ 25 * c.nesting + 2 * n + 27

namespace Cost.Covered

variable {k n m : Nat} {c c' : Cost}

theorem mono (h : Covered k n c) {j : Nat} (hj : j ≤ k) (hn : n ≤ m) : Covered j m c := by
  obtain ⟨hlevel, hjoins, hbinds⟩ := h
  exact ⟨Nat.le_trans hj hlevel, hjoins, by omega⟩

theorem atom (n : Nat) : Covered 12 n .atom :=
  ⟨Nat.le_refl 12, Nat.le_refl 1, show 26 ≤ 25 * 0 + 2 * n + 27 by omega⟩

theorem emptyCall (n : Nat) : Covered 12 n .emptyCall :=
  ⟨Nat.le_refl 12, show 2 ≤ 3 by decide, show 26 ≤ 25 * 1 + 2 * n + 27 by omega⟩

theorem defined (n : Nat) : Covered 12 n .defined :=
  ⟨Nat.le_refl 12, Nat.le_refl 1, show 27 ≤ 25 * 0 + 2 * n + 27 by omega⟩

theorem brackets (h : Covered 1 n c) : Covered 12 n c.brackets := by
  obtain ⟨hlevel, hjoins, hbinds⟩ := h
  refine ⟨Nat.le_refl 12, ?_, ?_⟩
  · show c.joins + 2 ≤ 2 * (c.nesting + 1) + 1
    omega
  · show c.binds + 2 + 2 * 12 ≤ 25 * (c.nesting + 1) + 2 * n + 27
    omega

theorem call (h : Covered 1 n c) : Covered 12 n c.call := by
  obtain ⟨hlevel, hjoins, hbinds⟩ := h
  have hsingle := c.singleBinds_le
  refine ⟨Nat.le_refl 12, ?_, ?_⟩
  · show c.joins + 2 ≤ 2 * (c.nesting + 1) + 1
    omega
  · show c.singleBinds + 1 + 2 * 12 ≤ 25 * (c.nesting + 1) + 2 * n + 27
    omega

theorem unary (h : Covered 12 n c) : Covered 11 n c.unary := by
  obtain ⟨hlevel, hjoins, hbinds⟩ := h
  refine ⟨Nat.le_refl 11, hjoins, ?_⟩
  show c.binds + 2 + 2 * 11 ≤ 25 * c.nesting + 2 * n + 27
  omega

/-- Step operators behind an operand stay at its level, so each of them is counted. -/
theorem step (h : Covered 11 n c) : Covered 11 (n + 1) c.unary := by
  obtain ⟨hlevel, hjoins, hbinds⟩ := h
  refine ⟨Nat.le_refl 11, hjoins, ?_⟩
  show c.binds + 2 + 2 * 11 ≤ 25 * c.nesting + 2 * (n + 1) + 27
  omega

/-- An operand that is no chain of level `k` is of a tighter level, which makes up for the frames of a new
    chain. -/
theorem chainBinds_le (h : Covered k n c) (hk : k ≤ 10) :
    c.chainBinds k + 2 * k ≤ 25 * c.nesting + 2 * n + 27 := by
  obtain ⟨hlevel, -, hbinds⟩ := h
  unfold chainBinds
  split
  · rename_i hform
    rw [hform] at hbinds
    exact hbinds
  · rename_i hform
    have htighter := Form.lt_level hlevel hk hform
    omega

theorem join (hk : k ≤ 10) (h : Covered k n c) (h' : Covered (k + 1) m c') :
    Covered k (n + m) (Cost.join k c c') := by
  have hleft := h.chainBinds_le hk
  have hjoins := h.joins_le
  obtain ⟨hlevel', hjoins', hbinds'⟩ := h'
  refine ⟨Nat.le_refl k, ?_, ?_⟩
  · show max c.joins c'.joins ≤ 2 * max c.nesting c'.nesting + 1
    omega
  · show max (c.chainBinds k) (c'.binds + 2) + 2 * k ≤ 25 * max c.nesting c'.nesting + 2 * (n + m) + 27
    omega

theorem frames_le (h : Covered 1 n c) : c.frames ≤ 25 * c.nesting + 2 * n + 27 := by
  obtain ⟨hlevel, hjoins, hbinds⟩ := h
  have hframes := c.frames_le
  omega

end Cost.Covered

/-- The step operators among the tokens. -/
def Token.isStep : Token → Bool
  | .operator _ op => op.followsOperand
  | _ => false

/-- **Brackets and step operators bound the frames of a derivation.** -/
theorem Derivation.covered {k : Nat} (d : Derivation k) :
    Cost.Covered k (d.yield.countP Token.isStep) d.cost := by
  induction d with
  | number | name => exact .atom _
  | emptyCall => exact .emptyCall _
  | defined => exact .defined _
  | brackets p d q ih =>
      refine ih.brackets.mono (Nat.le_refl 12) ?_
      rw [yield, List.countP_cons, List.countP_append]
      omega
  | call p s q d q' ih =>
      refine ih.call.mono (Nat.le_refl 12) ?_
      rw [yield, List.countP_cons, List.countP_cons, List.countP_append]
      omega
  | prefixed p op hop d ih =>
      refine ih.unary.mono (Nat.le_refl 11) ?_
      rw [yield, List.countP_cons]
      omega
  | postfixed d p op hop ih =>
      have hstep : Token.isStep (.operator p op) = true := hop
      have hcount : (d.postfixed p op hop).yield.countP Token.isStep = d.yield.countP Token.isStep + 1 := by
        rw [yield, List.countP_append, List.countP_singleton, if_pos hstep]
      exact ih.step.mono (Nat.le_refl 11) (Nat.le_of_eq hcount.symm)
  | tighter hk d ih => exact ih.mono (Nat.le_add_right _ 1) (Nat.le_refl _)
  | join l p op hop hk r ihl ihr =>
      subst hk
      refine (ihl.join (Operator.precedence_of_binary hop) ihr).mono (Nat.le_refl _) ?_
      rw [yield, List.countP_append, List.countP_cons]
      omega

/-! ## Nesting of brackets -/

namespace Expr

/-- The greatest number of brackets open at once, `depth` being open already. -/
def depthFrom (depth : Nat) : List Token → Nat
  | [] => depth
  | .bracket _ true :: ts => max depth (depthFrom (depth + 1) ts)
  | .bracket _ false :: ts => max depth (depthFrom (depth - 1) ts)
  | _ :: ts => depthFrom depth ts

/-- How deeply the brackets of a condition are nested. -/
def bracketDepth (tokens : List Token) : Nat := depthFrom 0 tokens

theorem le_depthFrom (n : Nat) (ts : List Token) : n ≤ depthFrom n ts := by
  fun_induction depthFrom n ts with
  | case1 => exact Nat.le_refl _
  | case2 => exact Nat.le_max_left _ _
  | case3 => exact Nat.le_max_left _ _
  | case4 n t ts _ _ ih => exact ih

theorem depthFrom_append (n : Nat) (ts us : List Token) :
    depthFrom n (ts ++ us) = max (depthFrom n ts) (depthFrom (depthAfter n ts) us) := by
  fun_induction depthFrom n ts with
  | case1 n => exact (Nat.max_eq_right (le_depthFrom n us)).symm
  | case2 n p ts ih =>
      rw [List.cons_append, depthFrom, depthAfter, ih, Nat.max_assoc]
  | case3 n p ts ih =>
      rw [List.cons_append, depthFrom, depthAfter, ih, Nat.max_assoc]
  | case4 n t ts ho hc ih =>
      rw [List.cons_append, depthFrom, depthAfter]
      · exact ih
      all_goals assumption

end Expr

namespace Derivation

theorem depthFrom_yield {k : Nat} (d : Derivation k) (n : Nat) :
    Expr.depthFrom n d.yield = n + d.cost.nesting := by
  induction d generalizing n with
  | number | name | defined => rfl
  | emptyCall =>
      simp only [yield, Expr.depthFrom, cost, Cost.emptyCall]
      omega
  | brackets p d q ih =>
      simp only [yield, Expr.depthFrom, Expr.depthFrom_append, depthAfter_yield, cost, Cost.brackets, ih]
      omega
  | call p s q d q' ih =>
      simp only [yield, Expr.depthFrom, Expr.depthFrom_append, depthAfter_yield, cost, Cost.call, ih]
      omega
  | prefixed p op hop d ih => exact ih n
  | postfixed d p op hop ih =>
      simp only [yield, Expr.depthFrom, Expr.depthFrom_append, depthAfter_yield, cost, Cost.unary, ih]
      omega
  | tighter hk d ih => exact ih n
  | join l p op hop hk r ihl ihr =>
      simp only [yield, Expr.depthFrom, Expr.depthFrom_append, depthAfter_yield, cost, Cost.join, ihl, ihr]
      omega

/-- The nesting of a derivation is the bracket depth of its tokens. -/
theorem bracketDepth_yield {k : Nat} (d : Derivation k) :
    Expr.bracketDepth d.yield = d.cost.nesting := by
  rw [Expr.bracketDepth, depthFrom_yield, Nat.zero_add]

/-- **The frames of a condition**: at most twenty-five for each nested bracket, two for each step operator and
    twenty-seven more. -/
theorem frames_le (d : Derivation 1) :
    d.frames ≤ 25 * Expr.bracketDepth d.yield + 2 * d.yield.countP Token.isStep + 27 := by
  rw [bracketDepth_yield]
  exact d.covered.frames_le

end Derivation

end HashIf
