import HashIf.Expr.Brackets
import HashIf.Expr.Frames
import HashIf.Proofs.Costs
import HashIf.Proofs.Merging

/-!
# `HashIf.Proofs.BindingFrames`: the frames of lists that bind

The frames that the parser needs are counted along its own recursion, which picks roots and cuts lists.
For a list that binds, the count follows the grammar: each rule of `Binds` has a cost that is made of the
costs of its parts.

## Contents
- `itemsFrames_of_root`: one step of the count.
- `cutFrames`, `cutFrames_of_tight`, `cutFrames_snoc`: the frames of a chain.
- `Measured`: a list that binds, with its cost.
- `Measured.atom`, `Measured.brackets`, `Measured.call`, `Measured.prefixed`, `Measured.postfixed`,
  `Measured.tighter`, `Measured.join`: the rules of the grammar.
- `Measured.bindingFrames_eq`: the frames of a whole condition.
-/

namespace HashIf.Expr

/-! ## One step of the count -/

theorem itemsFrames_singleton (x : Expr) : itemsFrames [x] = 1 + resolveFrames x := by
  rw [itemsFrames]

/-- **A list of several items with a root**, without reference to how the list is built. -/
theorem itemsFrames_of_root {items : List Expr} (h2 : 2 ≤ items.length) {root : Root}
    (hr : rootOf items = some root) :
    itemsFrames items =
      if root.op.isUnary then
        if root.index = 0 then 2 + itemsFrames items.tail
        else if root.op.followsOperand && root.index = items.length - 1 then
          2 + itemsFrames items.dropLast
        else 2
      else
        let parts := splitAtLevel root.op.precedence items
        match emptySide? parts.1 parts.2 with
        | some _ => 2
        | none =>
          2 + framesInTurn (resolveItems parts.1 (parts.2.head?.bind Link.pos))
            (itemsFrames parts.1) (linksFrames parts.2) := by
  match items, h2 with
  | e₁ :: e₂ :: es, _ =>
      rw [itemsFrames]
      split
      · rename_i hnone
        rw [hr] at hnone
        cases hnone
      · rename_i root' hroot'
        obtain rfl : root = root' := Option.some.inj (hr.symm.trans hroot')
        rfl

/-- A unary operator in front of an operand. -/
theorem itemsFrames_prefixed {op : Operator} {x : Expr} (p : Option Int) (hop : op.isUnary = true)
    (hx : x.operator? = none) : itemsFrames [.mark op p, x] = 2 + itemsFrames [x] := by
  have ht : Tight (op.precedence + 1) [x] := by
    refine tight_cons.mpr ⟨fun o ho => ?_, tight_nil⟩
    rw [hx] at ho
    cases ho
  have hroot : rootOf [.mark op p, x] = some ⟨0, op, p⟩ :=
    @rootOf_append_cons [] [x] (.mark op p) op rfl tight_nil ht
  rw [itemsFrames_of_root (by simp) hroot, hop, if_pos rfl, if_pos rfl, List.tail_cons]

/-- A step operator behind an operand. -/
theorem itemsFrames_postfixed {op : Operator} {items : List Expr} (p : Option Int)
    (hop : op.followsOperand = true) (ht : Tight 11 items) (hne : items ≠ []) :
    itemsFrames (items ++ [.mark op p]) = 2 + itemsFrames items := by
  have hprec := Operator.isUnary_iff.mp (Operator.isUnary_of_followsOperand hop)
  have hroot : rootOf (items ++ [.mark op p]) = some ⟨items.length, op, p⟩ :=
    rootOf_append_cons (x := .mark op p) rfl (hprec.symm ▸ ht) tight_nil
  have hpos := List.length_pos_iff.mpr hne
  have hlen : (items ++ [Expr.mark op p]).length = items.length + 1 := List.length_append
  rw [itemsFrames_of_root (by omega) hroot, Operator.isUnary_of_followsOperand hop, if_pos rfl,
    if_neg (by simp only; omega), if_pos (by simp [hop]), List.dropLast_concat]

/-! ## Chains -/

/-- The frames of the parts of a list that is cut at level `k`. -/
def cutFrames (k : Nat) (items : List Expr) : Nat :=
  framesInTurn (resolveItems (splitAtLevel k items).1 ((splitAtLevel k items).2.head?.bind Link.pos))
    (itemsFrames (splitAtLevel k items).1) (linksFrames (splitAtLevel k items).2)

/-- Where all parts have a tree, all of them are counted. -/
theorem cutFrames_of_foldsAt {k : Nat} {items : List Expr} {e : Expr} (h : FoldsAt k items e) :
    cutFrames k items
      = max (itemsFrames (splitAtLevel k items).1) (linksFrames (splitAtLevel k items).2) := by
  obtain ⟨-, -, x, hx, -⟩ := h
  rw [cutFrames, hx]
  rfl

/-- A list that is not cut at the level is counted as it is. -/
theorem cutFrames_of_tight {k : Nat} {items : List Expr} {e : Expr} (ht : Tight (k + 1) items)
    (hne : items ≠ []) (h : ∀ pos, resolveItems items pos = .ok e) :
    cutFrames k items = itemsFrames items := by
  rw [cutFrames_of_foldsAt (FoldsAt.of_tight ht hne h), splitAtLevel_of_tight ht, linksFrames]
  exact Nat.max_zero _

theorem linksFrames_concat {left e : Expr} {links : List Link} {l : Link}
    (h : resolveLinks left links = .ok e) :
    linksFrames (links ++ [l]) = max (linksFrames links) (itemsFrames l.items) := by
  induction links generalizing left with
  | nil =>
      rw [List.nil_append, linksFrames, linksFrames, Nat.zero_max]
      cases resolveItems l.items l.pos with
      | error f => rfl
      | ok r => simp only [framesInTurn, linksFrames, Nat.max_zero]
  | cons l' ls ih =>
      rw [resolveLinks] at h
      rw [List.cons_append, linksFrames, linksFrames]
      cases hres : resolveItems l'.items l'.pos with
      | error f =>
          rw [hres] at h
          cases h
      | ok r =>
          rw [hres] at h
          simp only [framesInTurn, ih h, Nat.max_assoc]

/-- **A chain with one more operator** needs no more than its parts do. -/
theorem cutFrames_snoc {ls rs : List Expr} {l r : Expr} {op : Operator} (p : Option Int)
    (hl : FoldsAt op.precedence ls l) (ht : Tight (op.precedence + 1) rs) (hne : rs ≠ [])
    (hr : ∀ pos, resolveItems rs pos = .ok r) :
    cutFrames op.precedence (ls ++ .mark op p :: rs)
      = max (cutFrames op.precedence ls) (itemsFrames rs) := by
  rw [cutFrames_of_foldsAt (hl.snoc p ht hne hr), cutFrames_of_foldsAt hl,
    splitAtLevel_append_cons (x := .mark op p) ls rfl rfl ht]
  obtain ⟨-, -, x, -, hfold⟩ := hl
  rw [linksFrames_concat hfold, Nat.max_assoc]

/-- A list whose root is binary is cut at the level of its root. -/
theorem itemsFrames_of_binary {before after : List Expr} {e : Expr} {op : Operator} (p : Option Int)
    (hop : op.isUnary = false) (hbne : before ≠ []) (hb : Tight op.precedence before)
    (ha : Tight (op.precedence + 1) after)
    (h : FoldsAt op.precedence (before ++ .mark op p :: after) e) :
    itemsFrames (before ++ .mark op p :: after)
      = 2 + cutFrames op.precedence (before ++ .mark op p :: after) := by
  have h2 : 2 ≤ (before ++ .mark op p :: after).length := by
    have := List.length_pos_iff.mpr hbne
    simp only [List.length_append, List.length_cons]
    omega
  obtain ⟨hfirst, hlinks, -⟩ := h
  rw [itemsFrames_of_root h2 (rootOf_append_cons (x := .mark op p) rfl hb ha), hop,
    if_neg Bool.false_ne_true]
  simp only [emptySide?_eq_none hfirst hlinks]
  rfl

/-! ## Costs of lists that bind -/

theorem joinItemsFrames_append (xs ys : List Expr) :
    joinItemsFrames (xs ++ ys) = max (joinItemsFrames xs) (joinItemsFrames ys) := by
  induction xs with
  | nil => exact (Nat.zero_max _).symm
  | cons x xs ih => rw [List.cons_append, joinItemsFrames, joinItemsFrames, ih, Nat.max_assoc]

theorem one_le_joinItemsFrames {items : List Expr} (h : items ≠ []) : 1 ≤ joinItemsFrames items := by
  match items with
  | [] => exact absurd rfl h
  | x :: xs =>
      have : 1 ≤ joinFrames x := by
        cases x <;> simp only [joinFrames] <;> omega
      exact Nat.le_trans this (Nat.le_max_left _ _)

/-- Next to an operand, an operator costs nothing where calls are joined. -/
theorem joinItemsFrames_append_mark {xs ys : List Expr} (op : Operator) (p : Option Int)
    (h : xs ≠ [] ∨ ys ≠ []) :
    joinItemsFrames (xs ++ .mark op p :: ys) = max (joinItemsFrames xs) (joinItemsFrames ys) := by
  rw [joinItemsFrames_append, joinItemsFrames, joinFrames]
  · rcases h with h | h
    · have := one_le_joinItemsFrames h
      omega
    · have := one_le_joinItemsFrames h
      omega
  · intro items q hg
    cases hg

/-- **A list that binds, with its cost.**  The items are those of nested brackets, before their calls are
    joined; `e` is the tree that the joined list binds to at level `k`. -/
structure Measured (k : Nat) (items : List Expr) (e : Expr) (c : Cost) : Prop where
  binds : Binds k (joined items) e
  joinItemsFrames_eq : joinItemsFrames items = c.joins
  itemsFrames_eq : itemsFrames (joined items) = c.binds
  cutFrames_eq : k ≤ 10 → 2 + cutFrames k (joined items) = c.chainBinds k
  isSingle_iff : c.form.isSingle = true ↔ (joined items).length = 1
  isBare_iff : c.form = .bare ↔ items.length = 1

namespace Measured

variable {k : Nat} {items : List Expr} {e : Expr} {c : Cost}

/-- A list that is joined to a single item. -/
theorem of_single {x : Expr} (hjoined : joined items = [x]) (hb : Binds 12 [x] e)
    (hjoins : joinItemsFrames items = c.joins) (hframes : itemsFrames [x] = c.binds)
    (hsingle : c.form.isSingle = true) (hbare : c.form = .bare ↔ items.length = 1) :
    Measured 12 items e c where
  binds := by rw [hjoined]; exact hb
  joinItemsFrames_eq := hjoins
  itemsFrames_eq := by rw [hjoined]; exact hframes
  cutFrames_eq hk := absurd hk (by decide)
  isSingle_iff := by rw [hjoined]; exact ⟨fun _ => rfl, fun _ => hsingle⟩
  isBare_iff := hbare

/-- A number or a name. -/
theorem atom {x : Expr} (hjoin : detectCalls x = x) (hj : joinFrames x = 1)
    (hr : resolveFrames x = 1) (h : Binds 12 [x] x) : Measured 12 [x] x .atom := by
  refine of_single (by rw [joined_singleton, hjoin]) h ?_ ?_ rfl ⟨fun _ => rfl, fun _ => rfl⟩
  · rw [joinItemsFrames, joinItemsFrames, hj]
    rfl
  · rw [itemsFrames_singleton, hr]
    rfl

/-- Brackets around a list. -/
theorem brackets (h : Measured 1 items e c) (p : Option Int) :
    Measured 12 [.group items p] e c.brackets := by
  refine of_single (joined_singleton _) (.group p h.binds) ?_ ?_ rfl ⟨fun _ => rfl, fun _ => rfl⟩
  · rw [joinItemsFrames, joinItemsFrames, joinFrames, h.joinItemsFrames_eq, Nat.max_zero,
      Nat.add_comm]
    rfl
  · have hframes := h.itemsFrames_eq
    rw [joined] at hframes
    simp only [detectCalls, itemsFrames_singleton, resolveFrames, hframes, Cost.brackets]
    omega

/-- A call with empty brackets. -/
theorem emptyCall (n : String) (p q : Option Int) :
    Measured 12 [.var n p, .group [] q] (.emptyCall n p) .emptyCall := by
  have hjoined : joined [.var n p, .group [] q] = [.emptyCall n p] := rfl
  refine of_single hjoined (.emptyCall n p) rfl ?_ rfl
    ⟨fun h => (by cases h), fun h => (by cases h)⟩
  simp only [itemsFrames_singleton, resolveFrames]
  rfl

/-- The argument of a call is an item or a group, and costs what it costs as one item. -/
theorem itemsFrames_callOf (h : Measured 1 items e c) (n : String) (p q : Option Int) :
    itemsFrames [callOf n p (joined items) q] = c.singleBinds + 1 := by
  have hframes := h.itemsFrames_eq
  have hsingle := h.isSingle_iff
  have hne := h.binds.ne_nil
  unfold Cost.singleBinds
  revert hframes hsingle hne
  match joined items with
  | [] => exact fun _ _ hne => absurd rfl hne
  | [x] =>
      intro hframes hsingle _
      simp only [if_pos (hsingle.mpr rfl), ← hframes, callOf, itemsFrames_singleton, resolveFrames]
      omega
  | x :: y :: rest =>
      intro hframes hsingle _
      have hno : ¬ c.form.isSingle = true := by
        intro hyes
        have := hsingle.mp hyes
        simp only [List.length_cons] at this
        omega
      simp only [if_neg hno, ← hframes, callOf, itemsFrames_singleton, resolveFrames]
      omega

/-- A name with brackets behind it. -/
theorem call (h : Measured 1 items e c) (n : String) (p q : Option Int) :
    Measured 12 [.var n p, .group items q] (.call n e p) c.call := by
  refine of_single rfl (h.binds.callOf n p q) ?_ (h.itemsFrames_callOf n p q) rfl
    ⟨fun h => (by cases h), fun h => (by cases h)⟩
  simp only [joinItemsFrames, joinFrames, h.joinItemsFrames_eq, Cost.call]
  omega

/-- `defined` in front of a name. -/
theorem defined (s : String) (p q : Option Int) :
    Measured 12 [.var definedName p, .var s q] (.call definedName (.var s q) p) .defined := by
  refine of_single rfl (.call definedName p (.var s q)) rfl ?_ rfl
    ⟨fun h => (by cases h), fun h => (by cases h)⟩
  simp only [itemsFrames_singleton, resolveFrames]
  rfl

theorem ne_nil (h : Measured k items e c) : items ≠ [] := by
  rintro rfl
  exact h.binds.ne_nil rfl

/-- A list with an operator in it, which is no single item before or after calls are joined. -/
theorem of_operator (xs ys : List Expr) {op : Operator} {p : Option Int} (hne : xs ≠ [] ∨ ys ≠ [])
    (hb : Binds k (joined xs ++ .mark op p :: joined ys) e)
    (hjoins : max (joinItemsFrames xs) (joinItemsFrames ys) = c.joins)
    (hframes : itemsFrames (joined xs ++ .mark op p :: joined ys) = c.binds)
    (hcut : k ≤ 10 → 2 + cutFrames k (joined xs ++ .mark op p :: joined ys) = c.chainBinds k)
    (hform : c.form.isSingle = false) : Measured k (xs ++ .mark op p :: ys) e c := by
  have hjoined := joined_append_mark xs ys op p
  have hlen : 2 ≤ (xs ++ .mark op p :: ys).length ∧ 2 ≤ (joined xs ++ .mark op p :: joined ys).length := by
    have hjne : joined xs ≠ [] ∨ joined ys ≠ [] := hne.imp (mt joined_eq_nil) (mt joined_eq_nil)
    simp only [List.length_append, List.length_cons]
    simp only [← List.length_pos_iff] at hne hjne
    omega
  constructor
  · rw [hjoined]
    exact hb
  · rw [joinItemsFrames_append_mark op p hne]
    exact hjoins
  · rw [hjoined]
    exact hframes
  · rw [hjoined]
    exact hcut
  · rw [hjoined, hform]
    exact ⟨fun h => (by cases h), fun h => (by omega)⟩
  · refine ⟨fun h => ?_, fun h => (by omega)⟩
    rw [h] at hform
    cases hform

/-- A unary operator in front of an operand. -/
theorem prefixed (h : Measured 12 items e c) {op : Operator} (hop : op.isUnary = true)
    (p : Option Int) : Measured 11 (.mark op p :: items) (.unary op e p) c.unary := by
  obtain ⟨x, hx, hnone⟩ := h.binds.eq_singleton
  have hbinds := h.binds
  have hframes := h.itemsFrames_eq
  rw [hx] at hbinds hframes
  refine of_operator [] _ (.inr h.ne_nil) ?_ ?_ ?_ (fun hk => absurd hk (by decide)) rfl
  · rw [hx]
    exact .prefixed p hop hbinds
  · rw [h.joinItemsFrames_eq]
    exact Nat.zero_max _
  · rw [hx]
    exact (itemsFrames_prefixed p hop hnone).trans (by rw [hframes, Nat.add_comm]; rfl)

/-- A step operator behind an operand. -/
theorem postfixed (h : Measured 11 items e c) {op : Operator} (hop : op.followsOperand = true)
    (p : Option Int) : Measured 11 (items ++ [.mark op p]) (.unary op e p) c.unary := by
  refine of_operator _ [] (.inl h.ne_nil) (.postfixed p hop h.binds) ?_ ?_
    (fun hk => absurd hk (by decide)) rfl
  · rw [h.joinItemsFrames_eq]
    exact Nat.max_zero _
  · refine (itemsFrames_postfixed p hop h.binds.tight h.binds.ne_nil).trans ?_
    rw [h.itemsFrames_eq, Nat.add_comm]
    rfl

/-- A list of a tighter level, which is no chain of the level below. -/
theorem tighter (h : Measured (k + 1) items e c) (hk : k ≤ 11) (hform : c.form ≠ .chain k) :
    Measured k items e c where
  binds := .tighter hk h.binds
  joinItemsFrames_eq := h.joinItemsFrames_eq
  itemsFrames_eq := h.itemsFrames_eq
  cutFrames_eq _ := by
    rw [cutFrames_of_tight h.binds.tight h.binds.ne_nil h.binds.resolves.1, h.itemsFrames_eq,
      Cost.chainBinds, if_neg hform, Nat.add_comm]
  isSingle_iff := h.isSingle_iff
  isBare_iff := h.isBare_iff

/-- A binary operator between its operands. -/
theorem join {op : Operator} {ls rs : List Expr} {l r : Expr} {cl cr : Cost}
    (hl : Measured op.precedence ls l cl) (hop : op.isUnary = false)
    (hr : Measured (op.precedence + 1) rs r cr) (p : Option Int) :
    Measured op.precedence (ls ++ .mark op p :: rs) (.binary op l r p)
      (Cost.join op.precedence cl cr) := by
  have hprec := Operator.precedence_of_binary hop
  have hfolds := hl.binds.resolves.2 hprec
  have hright := hr.binds.resolves.1
  have hcut := cutFrames_snoc p hfolds hr.binds.tight hr.binds.ne_nil hright
  have hchain := hl.cutFrames_eq hprec
  have hframes : 2 + cutFrames op.precedence (joined ls ++ .mark op p :: joined rs)
      = (Cost.join op.precedence cl cr).binds := by
    rw [hcut, hr.itemsFrames_eq, Cost.join, ← hchain]
    dsimp only
    omega
  refine of_operator _ _ (.inl hl.ne_nil) (.join p hop rfl hl.binds hr.binds) ?_ ?_ (fun _ => ?_) rfl
  · rw [hl.joinItemsFrames_eq, hr.joinItemsFrames_eq]
    rfl
  · exact (itemsFrames_of_binary p hop hl.binds.ne_nil hl.binds.tight hr.binds.tight
      (hfolds.snoc p hr.binds.tight hr.binds.ne_nil hright)).trans hframes
  · rw [hframes]
    exact (if_pos rfl).symm

/-- **The frames of a whole condition.**  A single item is not taken as a group, so that its own frames
    count and no others. -/
theorem bindingFrames_eq (h : Measured 1 items e c) : bindingFrames (ofItems items) = c.frames := by
  have hjoins := h.joinItemsFrames_eq
  have hframes := h.itemsFrames_eq
  have hbare := h.isBare_iff
  unfold Cost.frames
  match items with
  | [] => exact absurd rfl h.ne_nil
  | [x] =>
      rw [joinItemsFrames, joinItemsFrames, Nat.max_zero] at hjoins
      rw [joined_singleton, itemsFrames_singleton] at hframes
      rw [if_pos (hbare.mpr rfl), ofItems, bindingFrames]
      omega
  | x :: y :: rest =>
      have hno : ¬ c.form = .bare := by
        intro hyes
        have := hbare.mp hyes
        simp only [List.length_cons] at this
        omega
      have hresolve : resolveFrames (detectCalls (.group (x :: y :: rest) (some 0))) = 1 + c.binds := by
        rw [← hframes, detectCalls, resolveFrames, joined]
      rw [if_neg hno, ofItems, bindingFrames, hresolve, joinFrames, hjoins]
      · omega
      · intro z hz
        cases hz

end Measured

end HashIf.Expr
