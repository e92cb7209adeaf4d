import HashIf.Expr.Resolve

/-!
# `HashIf.Proofs.Looseness`: the loosest operator of a list and the cuts at its precedence

The resolver looks at a list of items twice before it recurses: `rootOf` scans for the operator that
binds loosest, and `splitAtLevel` cuts the list at every operator of that precedence.  Both are said
here once, in terms of one predicate, so that nothing below opens a scan again.

## Contents
- `Tight k items`: no operator of the list is looser than level `k`.
- `exists_loosest`: a list with an operator has a rightmost loosest one.
- `rootOf_eq_none`, `rootOf_append_cons`, `rootOf_cases`: what `rootOf` finds.
- `splitAtLevel_of_tight`, `splitAtLevel_append_cons`: how a cut distributes over a list.
- `Link.unfold`, `splitAtLevel_unfold`: a cut loses nothing.
- `Unbound`: an expression in which every operator is still a mark.
-/

namespace HashIf

namespace Operator

theorem precedence_pos (op : Operator) : 1 ≤ op.precedence := by
  cases op <;> decide

theorem precedence_le (op : Operator) : op.precedence ≤ 11 := by
  cases op <;> decide

/-- The unary operators are the ones of the tightest precedence. -/
theorem isUnary_iff {op : Operator} : op.isUnary = true ↔ op.precedence = 11 := by
  cases op <;> decide

theorem precedence_of_binary {op : Operator} (h : op.isUnary = false) : op.precedence ≤ 10 := by
  cases op <;> first | decide | exact absurd h (by decide)

/-- What may stand behind its operand is unary. -/
theorem isUnary_of_followsOperand {op : Operator} (h : op.followsOperand = true) :
    op.isUnary = true := by
  cases op <;> first | rfl | exact absurd h (by decide)

end Operator

namespace Expr

/-! ## Lists without loose operators -/

/-- No operator of the list binds looser than level `k`. -/
def Tight (k : Nat) (items : List Expr) : Prop :=
  ∀ x ∈ items, ∀ op, x.operator? = some op → k ≤ op.precedence

@[simp] theorem tight_nil {k : Nat} : Tight k [] := by
  intro x hx
  cases hx

@[simp] theorem tight_cons {k : Nat} {x : Expr} {items : List Expr} :
    Tight k (x :: items) ↔ (∀ op, x.operator? = some op → k ≤ op.precedence) ∧ Tight k items := by
  unfold Tight
  rw [List.forall_mem_cons]

@[simp] theorem tight_append {k : Nat} {xs ys : List Expr} :
    Tight k (xs ++ ys) ↔ Tight k xs ∧ Tight k ys := by
  unfold Tight
  rw [List.forall_mem_append]

theorem Tight.mono {j k : Nat} {items : List Expr} (h : Tight k items) (hjk : j ≤ k) :
    Tight j items :=
  fun x hx op hop => Nat.le_trans hjk (h x hx op hop)

/-- Beyond the tightest level there are no operators left. -/
theorem Tight.operator?_eq_none {items : List Expr} (h : Tight 12 items) {x : Expr}
    (hx : x ∈ items) : x.operator? = none := by
  cases hop : x.operator? with
  | none => rfl
  | some op =>
      have hle := h x hx op hop
      have := op.precedence_le
      omega

/-- **A list has no operator or a rightmost loosest one.**  In front of that operator nothing binds
    looser, and behind it everything binds tighter. -/
theorem exists_loosest (items : List Expr) :
    Tight 12 items ∨ ∃ before x after op, items = before ++ x :: after ∧ x.operator? = some op
      ∧ Tight op.precedence before ∧ Tight (op.precedence + 1) after := by
  induction items with
  | nil => exact Or.inl tight_nil
  | cons x xs ih =>
      cases hx : x.operator? with
      | none =>
          rcases ih with ht | ⟨before, y, after, op, rfl, hy, hb, ha⟩
          · exact Or.inl (tight_cons.mpr ⟨by simp [hx], ht⟩)
          · exact Or.inr ⟨x :: before, y, after, op, rfl, hy, tight_cons.mpr ⟨by simp [hx], hb⟩, ha⟩
      | some opx =>
          rcases ih with ht | ⟨before, y, after, op, rfl, hy, hb, ha⟩
          · have := opx.precedence_le
            exact Or.inr ⟨[], x, xs, opx, rfl, hx, tight_nil, ht.mono (by omega)⟩
          · by_cases hlt : opx.precedence < op.precedence
            -- The new operator on the left wins only if it is strictly looser.
            · refine Or.inr ⟨[], x, _, opx, rfl, hx, tight_nil, ?_⟩
              have hop : ∀ o, y.operator? = some o → opx.precedence + 1 ≤ o.precedence := by
                intro o ho
                rw [hy] at ho
                cases ho
                omega
              exact tight_append.mpr ⟨hb.mono (by omega),
                tight_cons.mpr ⟨hop, ha.mono (by omega)⟩⟩
            · refine Or.inr ⟨x :: before, y, after, op, rfl, hy, tight_cons.mpr ⟨?_, hb⟩, ha⟩
              intro o ho
              rw [hx] at ho
              cases ho
              omega

/-! ## The root of a list -/

theorem rootFrom_of_tight (i : Nat) (items : List Expr) (h : Tight 12 items) (best : Option Root) :
    rootFrom i best items = best := by
  induction items generalizing i with
  | nil => rfl
  | cons x xs ih =>
      have hx := h.operator?_eq_none List.mem_cons_self
      simp only [rootFrom, hx]
      exact ih (i + 1) (tight_cons.mp h).2

/-- A root stays the root as long as only tighter operators follow. -/
theorem rootFrom_some_of_tight (i : Nat) (best : Root) (items : List Expr)
    (h : Tight (best.op.precedence + 1) items) : rootFrom i (some best) items = some best := by
  induction items generalizing i with
  | nil => rfl
  | cons x xs ih =>
      obtain ⟨hx, hxs⟩ := tight_cons.mp h
      cases hop : x.operator? with
      | none =>
          simp only [rootFrom, hop]
          exact ih (i + 1) hxs
      | some op =>
          have hlt := hx op hop
          simp only [rootFrom, hop]
          rw [if_neg (by omega)]
          exact ih (i + 1) hxs

/-- An operator that is at least as loose as everything before it becomes the root. -/
theorem rootFrom_append_cons (i : Nat) (best : Option Root) (before : List Expr) (x : Expr)
    (after : List Expr) {op : Operator} (hx : x.operator? = some op)
    (hbest : ∀ b, best = some b → op.precedence ≤ b.op.precedence)
    (hb : Tight op.precedence before) :
    rootFrom i best (before ++ x :: after)
      = rootFrom (i + before.length + 1) (some ⟨i + before.length, op, x.pos⟩) after := by
  induction before generalizing i best with
  | nil =>
      cases best with
      | none => simp only [List.nil_append, rootFrom, hx, List.length_nil, Nat.add_zero]
      | some b =>
          simp only [List.nil_append, rootFrom, hx, List.length_nil, Nat.add_zero]
          rw [if_pos (hbest b rfl)]
  | cons y ys ih =>
      obtain ⟨hy, hys⟩ := tight_cons.mp hb
      -- Whatever is the best so far behind `y`, it is no looser than `op`, so the rest is the same.
      have hlen : ∀ best', (∀ b, best' = some b → op.precedence ≤ b.op.precedence) →
          rootFrom (i + 1) best' (ys ++ x :: after)
            = rootFrom (i + (y :: ys).length + 1) (some ⟨i + (y :: ys).length, op, x.pos⟩) after := by
        intro best' hbest'
        rw [ih (i + 1) best' hbest' hys, List.length_cons,
          show i + 1 + ys.length = i + (ys.length + 1) by omega]
      cases hopy : y.operator? with
      | none =>
          simp only [List.cons_append, rootFrom, hopy]
          exact hlen best hbest
      | some opy =>
          have hnew : ∀ b, some (⟨i, opy, y.pos⟩ : Root) = some b →
              op.precedence ≤ b.op.precedence := by
            intro b hb'
            cases hb'
            exact hy opy hopy
          cases best with
          | none =>
              simp only [List.cons_append, rootFrom, hopy]
              exact hlen _ hnew
          | some b =>
              simp only [List.cons_append, rootFrom, hopy]
              split
              · exact hlen _ hnew
              · exact hlen _ hbest

/-- A list without operators has no root. -/
theorem rootOf_eq_none {items : List Expr} (h : Tight 12 items) : rootOf items = none :=
  rootFrom_of_tight 0 items h none

/-- The root of a list is its rightmost loosest operator. -/
theorem rootOf_append_cons {before after : List Expr} {x : Expr} {op : Operator}
    (hx : x.operator? = some op) (hb : Tight op.precedence before)
    (ha : Tight (op.precedence + 1) after) :
    rootOf (before ++ x :: after) = some ⟨before.length, op, x.pos⟩ := by
  rw [rootOf, rootFrom_append_cons 0 none before x after hx (by simp) hb, Nat.zero_add]
  exact rootFrom_some_of_tight _ _ after ha

/-- **What `rootOf` finds**: nothing in a list without operators, and else the rightmost loosest
    operator with the place where it stands. -/
theorem rootOf_cases (items : List Expr) :
    (Tight 12 items ∧ rootOf items = none) ∨ ∃ before x after op, items = before ++ x :: after
      ∧ x.operator? = some op ∧ Tight op.precedence before ∧ Tight (op.precedence + 1) after
      ∧ rootOf items = some ⟨before.length, op, x.pos⟩ := by
  rcases exists_loosest items with h | ⟨before, x, after, op, rfl, hx, hb, ha⟩
  · exact Or.inl ⟨h, rootOf_eq_none h⟩
  · exact Or.inr ⟨before, x, after, op, rfl, hx, hb, ha, rootOf_append_cons hx hb ha⟩

/-! ## Cutting at a level -/

/-- A list that is tighter than a level is not cut there. -/
theorem splitAtLevel_of_tight {k : Nat} {items : List Expr} (h : Tight (k + 1) items) :
    splitAtLevel k items = (items, []) := by
  induction items with
  | nil => rfl
  | cons x xs ih =>
      obtain ⟨hx, hxs⟩ := tight_cons.mp h
      simp only [splitAtLevel, ih hxs]
      split
      · rename_i op hop
        have := hx op hop
        rw [if_neg (by omega)]
      · rfl

/-- The cuts of a list up to an operator of the level, and one more link for that operator. -/
theorem splitAtLevel_append_cons {k : Nat} (before : List Expr) {x : Expr} {after : List Expr}
    {op : Operator} (hx : x.operator? = some op) (hop : op.precedence = k)
    (ha : Tight (k + 1) after) :
    splitAtLevel k (before ++ x :: after)
      = ((splitAtLevel k before).1, (splitAtLevel k before).2 ++ [⟨op, x.pos, after⟩]) := by
  induction before with
  | nil =>
      simp only [List.nil_append, splitAtLevel, hx, splitAtLevel_of_tight ha]
      rw [if_pos hop]
  | cons y ys ih =>
      simp only [List.cons_append, splitAtLevel, ih]
      split
      · split
        · rfl
        · rfl
      · rfl

/-- A list is cut at operators of the level only. -/
theorem precedence_of_mem_splitAtLevel {level : Nat} {items : List Expr} {l : Link}
    (h : l ∈ (splitAtLevel level items).2) : l.op.precedence = level := by
  induction items with
  | nil => cases h
  | cons x xs ih =>
      rw [splitAtLevel] at h
      split at h
      · split at h
        · rename_i hlevel
          rcases List.mem_cons.mp h with rfl | h
          · exact hlevel
          · exact ih h
        · exact ih h
      · exact ih h

/-- A link written out: its operator and the items behind it. -/
def Link.unfold (l : Link) : List Expr := .mark l.op l.pos :: l.items

/-! ## Operators that are not bound yet -/

/-- No operator of the expression is bound: all of them are marks, at any depth. -/
inductive Unbound : Expr → Prop where
  | var (n : String) (p : Option Int) : Unbound (.var n p)
  | num (v : Number) (p : Option Int) : Unbound (.num v p)
  | mark (op : Operator) (p : Option Int) : Unbound (.mark op p)
  | emptyCall (n : String) (p : Option Int) : Unbound (.emptyCall n p)
  | call {a : Expr} (n : String) (p : Option Int) (h : Unbound a) : Unbound (.call n a p)
  | group {items : List Expr} (p : Option Int) (h : ∀ x ∈ items, Unbound x) :
      Unbound (.group items p)

/-- No operator of the expression is bound, and the offset of each node satisfies `P`. -/
inductive Placed (P : Option Int → Prop) : Expr → Prop where
  | var {p : Option Int} (n : String) (hp : P p) : Placed P (.var n p)
  | num {p : Option Int} (v : Number) (hp : P p) : Placed P (.num v p)
  | mark {p : Option Int} (op : Operator) (hp : P p) : Placed P (.mark op p)
  | emptyCall {p : Option Int} (n : String) (hp : P p) : Placed P (.emptyCall n p)
  | call {a : Expr} {p : Option Int} (n : String) (hp : P p) (h : Placed P a) : Placed P (.call n a p)
  | group {items : List Expr} {p : Option Int} (hp : P p) (h : ∀ x ∈ items, Placed P x) :
      Placed P (.group items p)

theorem Placed.pos {P : Option Int → Prop} {x : Expr} (h : Placed P x) : P x.pos := by
  cases h <;> assumption

theorem Placed.unbound {P : Option Int → Prop} {x : Expr} (h : Placed P x) : Unbound x := by
  induction h with
  | var n hp => exact .var n _
  | num v hp => exact .num v _
  | mark op hp => exact .mark op _
  | emptyCall n hp => exact .emptyCall n _
  | call n hp h ih => exact .call n _ ih
  | group hp h ih => exact .group _ ih

/-- Nothing is asked of the offsets of an unbound expression. -/
theorem Unbound.placed {x : Expr} (h : Unbound x) : Placed (fun _ => True) x := by
  induction h with
  | var n p => exact .var n trivial
  | num v p => exact .num v trivial
  | mark op p => exact .mark op trivial
  | emptyCall n p => exact .emptyCall n trivial
  | call n p h ih => exact .call n trivial ih
  | group p h ih => exact .group trivial ih

/-- An unbound item with an operator is the mark of that operator. -/
theorem Unbound.eq_mark {x : Expr} {op : Operator} (h : Unbound x) (hop : x.operator? = some op) :
    x = .mark op x.pos := by
  cases h with
  | mark op' p =>
      cases hop
      rfl
  | _ => cases hop

/-- **A cut loses nothing.**  Every link stands at the level of the cut, every part is tighter than
    that if the list has nothing looser, and the parts with their operators make up the list. -/
theorem splitAtLevel_unfold {k : Nat} {items : List Expr} (hu : ∀ x ∈ items, Unbound x)
    (ht : Tight k items) :
    items = (splitAtLevel k items).1 ++ (splitAtLevel k items).2.flatMap Link.unfold
      ∧ Tight (k + 1) (splitAtLevel k items).1
      ∧ ∀ l ∈ (splitAtLevel k items).2, l.op.precedence = k ∧ Tight (k + 1) l.items := by
  induction items with
  | nil => exact ⟨rfl, tight_nil, fun l hl => by cases hl⟩
  | cons x xs ih =>
      obtain ⟨hx, hxs⟩ := tight_cons.mp ht
      obtain ⟨hux, huxs⟩ := List.forall_mem_cons.mp hu
      obtain ⟨heq, hfirst, hlinks⟩ := ih huxs hxs
      simp only [splitAtLevel]
      cases hop : x.operator? with
      | none =>
          refine ⟨?_, tight_cons.mpr ⟨by simp [hop], hfirst⟩, hlinks⟩
          rw [List.cons_append, ← heq]
      | some op =>
          by_cases hk : op.precedence = k
          · simp only [if_pos hk]
            refine ⟨?_, tight_nil, List.forall_mem_cons.mpr ⟨⟨hk, hfirst⟩, hlinks⟩⟩
            rw [List.nil_append, List.flatMap_cons]
            show x :: xs = .mark op x.pos :: (_ ++ _)
            rw [← heq, ← hux.eq_mark hop]
          · simp only [if_neg hk]
            have hlt : k + 1 ≤ op.precedence := by
              have := hx op hop
              omega
            refine ⟨?_, tight_cons.mpr ⟨fun o ho => ?_, hfirst⟩, hlinks⟩
            · rw [List.cons_append, ← heq]
            · rw [hop] at ho
              cases ho
              exact hlt

end Expr

end HashIf
