import HashIf.Proofs.Looseness

/-!
# `HashIf.Proofs.Binding`: which lists of items resolve, and to which tree

The resolver picks a root, cuts and folds; what it accepts is a grammar of levels.  `Binds k items e`
is that grammar on lists of items: level `k` from `1` to `10` joins operands with the binary operators
of precedence `k`, nested to the left, level `11` puts unary operators in front of or behind an
operand, and level `12` is a single operand.  What binds at level `1` resolves.

## Contents
- `Binds`, `Binds.tight`, `Binds.raise`: the grammar, and where in it a list stands.
- `resolveItems_of_root`: one step of the resolver.
- `FoldsAt`: cutting at a level and joining from the left, as the resolver does it.
- `Binds.resolves`: what the grammar accepts resolves to the tree of the grammar.
-/

namespace HashIf.Expr

/-! ## The grammar of levels -/

/-- `Binds k items e`: the items, read at level `k`, are the tree `e`. -/
inductive Binds : Nat → List Expr → Expr → Prop where
  | var (n : String) (p : Option Int) : Binds 12 [.var n p] (.var n p)
  | num (v : Number) (p : Option Int) : Binds 12 [.num v p] (.num v p)
  | emptyCall (n : String) (p : Option Int) : Binds 12 [.emptyCall n p] (.emptyCall n p)
  | call {a e : Expr} (n : String) (p : Option Int) (h : Binds 12 [a] e) :
      Binds 12 [.call n a p] (.call n e p)
  | group {items : List Expr} {e : Expr} (p : Option Int) (h : Binds 1 items e) :
      Binds 12 [.group items p] e
  | prefixed {op : Operator} {x e : Expr} (p : Option Int) (hop : op.isUnary = true)
      (h : Binds 12 [x] e) : Binds 11 [.mark op p, x] (.unary op e p)
  | postfixed {op : Operator} {items : List Expr} {e : Expr} (p : Option Int)
      (hop : op.followsOperand = true) (h : Binds 11 items e) :
      Binds 11 (items ++ [.mark op p]) (.unary op e p)
  | tighter {k : Nat} {items : List Expr} {e : Expr} (hk : k ≤ 11) (h : Binds (k + 1) items e) :
      Binds k items e
  | join {k : Nat} {op : Operator} {ls rs : List Expr} {l r : Expr} (p : Option Int)
      (hop : op.isUnary = false) (hk : op.precedence = k) (hl : Binds k ls l)
      (hr : Binds (k + 1) rs r) : Binds k (ls ++ .mark op p :: rs) (.binary op l r p)

namespace Binds

theorem ne_nil {k : Nat} {items : List Expr} {e : Expr} (h : Binds k items e) : items ≠ [] := by
  induction h with
  | tighter _ _ ih => exact ih
  | postfixed _ _ _ _ => exact List.append_ne_nil_of_right_ne_nil _ (List.cons_ne_nil _ _)
  | join _ _ _ _ _ _ _ => exact List.append_ne_nil_of_right_ne_nil _ (List.cons_ne_nil _ _)
  | _ => exact List.cons_ne_nil _ _

/-- What binds at a level has no looser operator. -/
theorem tight {k : Nat} {items : List Expr} {e : Expr} (h : Binds k items e) : Tight k items := by
  induction h with
  | prefixed p hop _ ih =>
      refine tight_cons.mpr ⟨fun o ho => ?_, ih.mono (by omega)⟩
      cases ho
      exact Nat.le_of_eq (Operator.isUnary_iff.mp hop).symm
  | postfixed p hop _ ih =>
      refine tight_append.mpr ⟨ih, tight_cons.mpr ⟨fun o ho => ?_, tight_nil⟩⟩
      cases ho
      exact Nat.le_of_eq (Operator.isUnary_iff.mp (Operator.isUnary_of_followsOperand hop)).symm
  | tighter _ _ ih => exact ih.mono (by omega)
  | join p _ hk _ _ ihl ihr =>
      refine tight_append.mpr ⟨ihl, tight_cons.mpr ⟨fun o ho => ?_, ihr.mono (by omega)⟩⟩
      cases ho
      exact Nat.le_of_eq hk.symm
  | _ => exact tight_cons.mpr ⟨fun o ho => (by cases ho), tight_nil⟩

/-- **A list binds at every level that its operators allow.** -/
theorem raise {j m : Nat} {items : List Expr} {e : Expr} (h : Binds j items e) (hjm : j ≤ m)
    (hm : m ≤ 12) (ht : Tight m items) : Binds m items e := by
  induction h with
  | prefixed p hop h _ =>
      have h11 : m ≤ 11 := (Operator.isUnary_iff.mp hop) ▸ (tight_cons.mp ht).1 _ rfl
      obtain rfl : m = 11 := by omega
      exact prefixed p hop h
  | postfixed p hop h _ =>
      have hprec := Operator.isUnary_iff.mp (Operator.isUnary_of_followsOperand hop)
      have h11 : m ≤ 11 := hprec ▸ (tight_cons.mp (tight_append.mp ht).2).1 _ rfl
      obtain rfl : m = 11 := by omega
      exact postfixed p hop h
  | @tighter k items e hk h ih =>
      -- Stop at the level that was asked for, else go on to the one below it.
      by_cases hkm : k = m
      · subst hkm
        exact tighter hk h
      · exact ih (by omega) ht
  | join p hop hk hl hr _ _ =>
      have hle := (tight_cons.mp (tight_append.mp ht).2).1 _ rfl
      obtain rfl : m = _ := Nat.le_antisymm (hk ▸ hle) hjm
      exact join p hop hk hl hr
  | var n p => exact Nat.le_antisymm hm hjm ▸ var n p
  | num v p => exact Nat.le_antisymm hm hjm ▸ num v p
  | emptyCall n p => exact Nat.le_antisymm hm hjm ▸ emptyCall n p
  | call n p h _ => exact Nat.le_antisymm hm hjm ▸ call n p h
  | group p h _ => exact Nat.le_antisymm hm hjm ▸ group p h

/-- The other way round, every level includes the tighter ones. -/
theorem lower {j m : Nat} {items : List Expr} {e : Expr} (h : Binds m items e) (hjm : j ≤ m)
    (hm : m ≤ 12) : Binds j items e := by
  induction hd : m - j generalizing j with
  | zero => exact (show m = j by omega) ▸ h
  | succ d ih => exact tighter (by omega) (ih (by omega) (by omega))

/-- At the tightest level there is a single item. -/
theorem eq_singleton {items : List Expr} {e : Expr} (h : Binds 12 items e) :
    ∃ x, items = [x] ∧ x.operator? = none := by
  generalize hk : 12 = k at h
  cases h with
  | prefixed | postfixed => omega
  | tighter => omega
  | join p hop hk' =>
      have := Operator.precedence_of_binary hop
      omega
  | _ => exact ⟨_, rfl, rfl⟩

end Binds

/-! ## One step of the resolver -/

/-- **A list of several items with a root**, without reference to how the list is built. -/
theorem resolveItems_of_root {items : List Expr} (h2 : 2 ≤ items.length) {root : Root}
    (hr : rootOf items = some root) (pos : Option Int) :
    resolveItems items pos =
      if root.op.isUnary then
        if root.index = 0 then (.unary root.op · root.pos) <$> resolveItems items.tail root.pos
        else if root.op.followsOperand && root.index = items.length - 1 then
          (.unary root.op · root.pos) <$> resolveItems items.dropLast root.pos
        else .error ⟨.misplacedUnary, root.pos⟩
      else
        let parts := splitAtLevel root.op.precedence items
        match emptySide? parts.1 parts.2 with
        | some l => .error ⟨.missingSide, l.pos⟩
        | none =>
          match resolveItems parts.1 (parts.2.head?.bind Link.pos) with
          | .error f => .error f
          | .ok first => resolveLinks first parts.2 := by
  match items, h2 with
  | e₁ :: e₂ :: es, _ =>
      rw [resolveItems]
      split
      · rename_i hnone
        rw [hr] at hnone
        cases hnone
      · rename_i root' hroot'
        obtain rfl : root = root' := Option.some.inj (hr.symm.trans hroot')
        rfl

/-- Without a root several items are refused at the second one. -/
theorem resolveItems_of_no_root {items : List Expr} (h2 : 2 ≤ items.length)
    (hr : rootOf items = none) (pos : Option Int) :
    ∃ x, items[1]? = some x ∧ resolveItems items pos = .error ⟨.noOperator, x.pos⟩ := by
  match items, h2 with
  | e₁ :: e₂ :: es, _ =>
      refine ⟨e₂, rfl, ?_⟩
      rw [resolveItems]
      split
      · rfl
      · rename_i root hroot
        rw [hr] at hroot
        cases hroot

/-- No operand is missing if nothing is empty. -/
theorem emptySide?_eq_none {first : List Expr} {links : List Link} (hf : first ≠ [])
    (hl : ∀ l ∈ links, l.items ≠ []) : emptySide? first links = none := by
  have hne : first.isEmpty = false := by rw [List.isEmpty_eq_false_iff]; exact hf
  unfold emptySide?
  rw [hne, if_neg Bool.false_ne_true, List.find?_eq_none]
  intro l hmem hempty
  exact hl l hmem (List.isEmpty_iff.mp hempty)

/-! ## From the grammar to the resolver -/

/-- Cutting the items at level `k` and joining the parts from the left gives `e`. -/
def FoldsAt (k : Nat) (items : List Expr) (e : Expr) : Prop :=
  (splitAtLevel k items).1 ≠ [] ∧ (∀ l ∈ (splitAtLevel k items).2, l.items ≠ [])
    ∧ ∃ x, (∀ pos, resolveItems (splitAtLevel k items).1 pos = .ok x)
      ∧ resolveLinks x (splitAtLevel k items).2 = .ok e

/-- A list that is not cut at the level is a chain of one operand. -/
theorem FoldsAt.of_tight {k : Nat} {items : List Expr} {e : Expr} (ht : Tight (k + 1) items)
    (hne : items ≠ []) (h : ∀ pos, resolveItems items pos = .ok e) : FoldsAt k items e := by
  unfold FoldsAt
  rw [splitAtLevel_of_tight ht]
  exact ⟨hne, fun l hl => (by cases hl), e, h, by rw [resolveLinks]⟩

theorem resolveLinks_append_single {left mid : Expr} {links : List Link} {l : Link}
    (h : resolveLinks left links = .ok mid) :
    resolveLinks left (links ++ [l]) = resolveLinks mid [l] := by
  induction links generalizing left with
  | nil =>
      rw [resolveLinks] at h
      cases h
      rfl
  | cons l' ls ih =>
      rw [resolveLinks] at h
      rw [List.cons_append, resolveLinks]
      split at h
      · cases h
      · exact ih h

/-- A chain with one more operator of the level and a tighter operand behind it. -/
theorem FoldsAt.snoc {ls rs : List Expr} {l r : Expr} {op : Operator} (p : Option Int)
    (hl : FoldsAt op.precedence ls l) (ht : Tight (op.precedence + 1) rs) (hne : rs ≠ [])
    (hr : ∀ pos, resolveItems rs pos = .ok r) :
    FoldsAt op.precedence (ls ++ .mark op p :: rs) (.binary op l r p) := by
  obtain ⟨hfirst, hlinks, x, hx, hfold⟩ := hl
  unfold FoldsAt
  rw [splitAtLevel_append_cons (x := .mark op p) ls rfl rfl ht]
  refine ⟨hfirst, ?_, x, hx, ?_⟩
  · intro link hlink
    rcases List.mem_append.mp hlink with hlink | hlink
    · exact hlinks link hlink
    · rw [List.mem_singleton.mp hlink]
      exact hne
  · rw [resolveLinks_append_single hfold, resolveLinks, hr]
    exact resolveLinks.eq_1 _

/-- A list whose root is binary resolves as its chain does. -/
theorem FoldsAt.resolveItems_eq {before after : List Expr} {x e : Expr} {op : Operator}
    (hx : x.operator? = some op) (hop : op.isUnary = false) (hbne : before ≠ [])
    (hb : Tight op.precedence before) (ha : Tight (op.precedence + 1) after)
    (h : FoldsAt op.precedence (before ++ x :: after) e) (pos : Option Int) :
    resolveItems (before ++ x :: after) pos = .ok e := by
  have h2 : 2 ≤ (before ++ x :: after).length := by
    have := List.length_pos_iff.mpr hbne
    simp only [List.length_append, List.length_cons]
    omega
  obtain ⟨hfirst, hlinks, y, hy, hfold⟩ := h
  rw [resolveItems_of_root h2 (rootOf_append_cons hx hb ha), hop, if_neg Bool.false_ne_true]
  simp only [emptySide?_eq_none hfirst hlinks, hy, hfold]

/-- **What the grammar accepts resolves to the tree of the grammar**, and as a chain of its own
    level it folds to the same tree.  The second half carries the induction through the chains:
    the left operand of a join is not resolved as a list of its own. -/
theorem Binds.resolves {k : Nat} {items : List Expr} {e : Expr} (h : Binds k items e) :
    (∀ pos, resolveItems items pos = .ok e) ∧ (k ≤ 10 → FoldsAt k items e) := by
  induction h with
  | var | num | emptyCall =>
      refine ⟨fun pos => ?_, fun hk => absurd hk (by decide)⟩
      simp only [resolveItems, resolve]
  | call n p _ ih =>
      refine ⟨fun pos => ?_, fun hk => absurd hk (by decide)⟩
      have ha := ih.1 none
      rw [resolveItems] at ha
      rw [resolveItems, resolve, ha]
      rfl
  | group p _ ih =>
      refine ⟨fun pos => ?_, fun hk => absurd hk (by decide)⟩
      rw [resolveItems, resolve]
      exact ih.1 p
  | @prefixed op x e p hop h ih =>
      refine ⟨fun pos => ?_, fun hk => absurd hk (by decide)⟩
      have ht : Tight (op.precedence + 1) [x] := (Operator.isUnary_iff.mp hop).symm ▸ h.tight
      have hroot : rootOf [.mark op p, x] = some ⟨0, op, p⟩ :=
        @rootOf_append_cons [] [x] (.mark op p) op rfl tight_nil ht
      rw [resolveItems_of_root (by simp) hroot, hop, if_pos rfl, if_pos rfl, List.tail_cons,
        ih.1]
      rfl
  | @postfixed op items e p hop h ih =>
      refine ⟨fun pos => ?_, fun hk => absurd hk (by decide)⟩
      have hprec := Operator.isUnary_iff.mp (Operator.isUnary_of_followsOperand hop)
      have hroot : rootOf (items ++ [.mark op p]) = some ⟨items.length, op, p⟩ :=
        rootOf_append_cons (x := .mark op p) rfl (hprec.symm ▸ h.tight) tight_nil
      have hpos := List.length_pos_iff.mpr h.ne_nil
      have hlen : (items ++ [Expr.mark op p]).length = items.length + 1 := List.length_append
      rw [resolveItems_of_root (by omega) hroot, Operator.isUnary_of_followsOperand hop, if_pos rfl,
        if_neg (by simp only; omega), if_pos (by simp [hop]), List.dropLast_concat, ih.1]
      rfl
  | tighter hk h ih =>
      exact ⟨ih.1, fun _ => FoldsAt.of_tight h.tight h.ne_nil ih.1⟩
  | @join k op ls rs l r p hop hk hl hr ihl ihr =>
      subst hk
      -- The chain of the left operand is cut at the same level, so it gets one more link.
      have hfold := (ihl.2 (Operator.precedence_of_binary hop)).snoc p hr.tight hr.ne_nil ihr.1
      exact ⟨hfold.resolveItems_eq rfl hop hl.ne_nil hl.tight hr.tight, fun _ => hfold⟩

end HashIf.Expr
