import HashIf.Proofs.Binding

/-!
# `HashIf.Proofs.Resolution`: resolution is the grammar of levels

The converse of `Binds.resolves`, and what becomes of everything else.  A resolver is judged by its
outcome: a tree has to be the one that the list binds to, and a fault has to belong to the resolution
stage.  One step of the resolver keeps to this if the steps inside do, so all of it does, and a list
resolves exactly if it binds at the loosest level.

## Contents
- `Judged`: the outcomes that a list may have.
- `Descends`, `StepJudged`: a resolver outside of lists, and its step on one list.
- `Descends.judged_of_weight_le`: the recursion into nested lists, for any resolver.
- `resolveItems_stepJudged`: the step of the resolver.
- `resolve_eq_ok_iff`, `resolveItems_eq_ok_iff`: resolution and the grammar agree.
-/

namespace HashIf.Expr

/-! ## Outcomes -/

/-- The outcomes that a list may have at level `k`: the tree that it binds to, or a fault of the
    resolution stage. -/
def Judged (k : Nat) (items : List Expr) : Except LocatedFault Expr → Prop
  | .ok e => Binds k items e
  | .error f => f.fault.stage = .resolution

namespace Judged

variable {j k m : Nat} {items items' : List Expr} {r : Except LocatedFault Expr}

theorem binds {e : Expr} (h : Judged k items r) (hr : r = .ok e) : Binds k items e := by
  subst hr
  exact h

theorem stage {f : LocatedFault} (h : Judged k items r) (hr : r = .error f) :
    f.fault.stage = .resolution := by
  subst hr
  exact h

/-- An outcome remains right under a function on trees that follows a rule of the grammar. -/
theorem map {g : Expr → Expr} (h : Judged j items r)
    (hg : ∀ e, Binds j items e → Binds k items' (g e)) : Judged k items' (g <$> r) := by
  cases r with
  | error f => exact h
  | ok e => exact hg e h

theorem raise (h : Judged j items r) (hjm : j ≤ m) (hm : m ≤ 12) (ht : Tight m items) :
    Judged m items r := by
  cases r with
  | error f => exact h
  | ok e => exact Binds.raise h hjm hm ht

theorem lower (h : Judged m items r) (hjm : j ≤ m) (hm : m ≤ 12) : Judged j items r := by
  cases r with
  | error f => exact h
  | ok e => exact Binds.lower h hjm hm

/-- A unary operator in front of what is left of a list when there is no other operator. -/
theorem prefixed {op : Operator} (h : Judged 1 items r) (hop : op.isUnary = true)
    (ht : Tight 12 items) (p : Option Int) :
    Judged 1 (.mark op p :: items) ((.unary op · p) <$> r) := by
  refine (h.raise (by omega) (by omega) ht).map fun e he => ?_
  -- Without an operator, a single operand stands there.
  obtain ⟨y, rfl, -⟩ := he.eq_singleton
  exact (Binds.prefixed _ hop he).lower (by omega) (by omega)

/-- A step operator behind what is left of a list when there is no binary operator. -/
theorem postfixed {op : Operator} (h : Judged 1 items r) (hop : op.followsOperand = true)
    (ht : Tight 11 items) (p : Option Int) :
    Judged 1 (items ++ [.mark op p]) ((.unary op · p) <$> r) := by
  refine (h.raise (by omega) (by omega) ht).map fun e he => ?_
  exact (Binds.postfixed _ hop he).lower (by omega) (by omega)

end Judged

/-! ## Resolvers in general

What is accepted at the end of a recursion into groups and calls does not depend on how one list is
treated, as long as that treatment is judged right.  So the induction over nested lists is done once,
for any pair of functions on expressions and on lists. -/

/-- A resolver of expressions that hands groups over to a resolver of lists. -/
structure Descends (r : Expr → Except LocatedFault Expr)
    (s : List Expr → Option Int → Except LocatedFault Expr) : Prop where
  var : ∀ n p, r (.var n p) = .ok (.var n p)
  num : ∀ v p, r (.num v p) = .ok (.num v p)
  emptyCall : ∀ n p, r (.emptyCall n p) = .ok (.emptyCall n p)
  mark : ∀ op p, r (.mark op p) = .error ⟨.missingOperand op, p⟩
  call : ∀ n a p, r (.call n a p) = (.call n · p) <$> r a
  group : ∀ items p, r (.group items p) = s items p

/-- One list is treated right if its items and all lighter lists are. -/
def StepJudged (r : Expr → Except LocatedFault Expr)
    (s : List Expr → Option Int → Except LocatedFault Expr) : Prop :=
  ∀ {items : List Expr} (pos : Option Int), (∀ x ∈ items, Unbound x) →
    (∀ x ∈ items, Judged 12 [x] (r x)) →
    (∀ items' pos', itemsWeight items' < itemsWeight items → (∀ x ∈ items', Unbound x) →
      Judged 1 items' (s items' pos')) →
    Judged 1 items (s items pos)

theorem weight_lt_of_mem {items : List Expr} {x : Expr} (h : x ∈ items) :
    weight x < itemsWeight items := by
  induction items with
  | nil => cases h
  | cons y ys ih =>
      rw [itemsWeight]
      rcases List.mem_cons.mp h with rfl | h
      · omega
      · have := ih h
        omega

section

variable {r : Expr → Except LocatedFault Expr} {s : List Expr → Option Int → Except LocatedFault Expr}

/-- **A resolver is right if its step is**, for expressions in which no operator is bound yet.  The
    induction is on the weight, which is less for everything inside. -/
theorem Descends.judged_of_weight_le (hd : Descends r s) (hs : StepJudged r s) (n : Nat) :
    (∀ x, weight x ≤ n → Unbound x → Judged 12 [x] (r x))
    ∧ ∀ items pos, itemsWeight items ≤ n → (∀ x ∈ items, Unbound x) →
        Judged 1 items (s items pos) := by
  induction n with
  | zero =>
      -- No expression is that light, and the only list is the empty one.
      refine ⟨fun x hw => absurd (weight_pos x) (by omega), fun items pos hw hu => ?_⟩
      refine hs pos hu (fun x hx => ?_) (fun items' _ hlt => absurd hlt (by omega))
      have := weight_lt_of_mem hx
      omega
  | succ n ih =>
      obtain ⟨ihx, ihs⟩ := ih
      constructor
      · intro x hw hu
        cases hu with
        | var n p =>
            rw [hd.var]
            exact Binds.var n p
        | num v p =>
            rw [hd.num]
            exact Binds.num v p
        | emptyCall n p =>
            rw [hd.emptyCall]
            exact Binds.emptyCall n p
        | mark op p =>
            rw [hd.mark]
            rfl
        | @call a name p ha =>
            rw [weight] at hw
            rw [hd.call]
            exact (ihx a (by omega) ha).map fun e he => .call name p he
        | @group items p hitems =>
            rw [weight] at hw
            rw [hd.group]
            have hgroup := ihs items p (by omega) hitems
            cases hres : s items p with
            | error f => exact hgroup.stage hres
            | ok e => exact .group p (hgroup.binds hres)
      · intro items pos hw hu
        refine hs pos hu (fun x hx => ihx x ?_ (hu x hx))
          (fun items' pos' hlt => ihs items' pos' (by omega))
        have := weight_lt_of_mem hx
        omega

theorem Descends.judged (hd : Descends r s) (hs : StepJudged r s) {x : Expr} (hu : Unbound x) :
    Judged 12 [x] (r x) :=
  (hd.judged_of_weight_le hs (weight x)).1 x (Nat.le_refl _) hu

theorem Descends.judgedItems (hd : Descends r s) (hs : StepJudged r s) {items : List Expr}
    (pos : Option Int) (hu : ∀ x ∈ items, Unbound x) : Judged 1 items (s items pos) :=
  (hd.judged_of_weight_le hs (itemsWeight items)).2 items pos (Nat.le_refl _) hu

end

/-! ## The step of the resolver -/

/-- The resolver outside of lists. -/
theorem resolve_descends : Descends resolve resolveItems where
  var _ _ := by simp only [resolve]
  num _ _ := by simp only [resolve]
  emptyCall _ _ := by simp only [resolve]
  mark _ _ := by simp only [resolve]
  call _ _ _ := by simp only [resolve]
  group _ _ := by simp only [resolve]

theorem itemsWeight_lt_of_mem {links : List Link} {l : Link} (h : l ∈ links) :
    itemsWeight l.items < linksWeight links := by
  induction links with
  | nil => cases h
  | cons l' ls ih =>
      rw [linksWeight]
      rcases List.mem_cons.mp h with rfl | h
      · omega
      · have := ih h
        omega

/-- Joining a chain from the left builds a tree of the chain's level. -/
theorem judged_resolveLinks {k : Nat} {links : List Link} {ls : List Expr} {left : Expr}
    (hlinks : ∀ l ∈ links, l.op.isUnary = false ∧ l.op.precedence = k
      ∧ Judged (k + 1) l.items (resolveItems l.items l.pos))
    (hl : Binds k ls left) :
    Judged k (ls ++ links.flatMap Link.unfold) (resolveLinks left links) := by
  induction links generalizing ls left with
  | nil =>
      rw [resolveLinks, List.flatMap_nil, List.append_nil]
      exact hl
  | cons l links ih =>
      obtain ⟨⟨hop, hk, hres⟩, hrest⟩ := List.forall_mem_cons.mp hlinks
      rw [resolveLinks]
      split
      · rename_i f hf
        exact hres.stage hf
      · rename_i r hr
        have hjoin := ih hrest (hl.join l.pos hop hk (hres.binds hr))
        rw [List.append_assoc] at hjoin
        exact hjoin

/-- A list that is cut at the level of one of its operators is treated right if all lighter lists
    are. -/
theorem judged_of_cut {k : Nat} {items : List Expr} (p : Option Int)
    (ih : ∀ items' pos, itemsWeight items' < itemsWeight items → (∀ x ∈ items', Unbound x) →
      Judged 1 items' (resolveItems items' pos))
    (hu : ∀ x ∈ items, Unbound x) (hk1 : 1 ≤ k) (hk : k ≤ 10) (ht : Tight k items)
    (hnt : ¬ Tight (k + 1) items) :
    Judged 1 items (match resolveItems (splitAtLevel k items).1 p with
      | .error f => .error f
      | .ok first => resolveLinks first (splitAtLevel k items).2) := by
  obtain ⟨heq, htf, hlinks⟩ := splitAtLevel_unfold hu ht
  have hweight := splitAtLevel_weight_le k items
  -- There is a link, or the list would be tighter than its own level; so every part is lighter.
  have hne : (splitAtLevel k items).2 ≠ [] := by
    intro hnil
    rw [hnil, List.flatMap_nil, List.append_nil] at heq
    exact hnt (heq ▸ htf)
  have hlen := List.length_pos_iff.mpr hne
  obtain ⟨huf, hul⟩ := List.forall_mem_append.mp (heq ▸ hu)
  have hfirst : Judged (k + 1) _ (resolveItems (splitAtLevel k items).1 p) :=
    (ih _ p (by omega) huf).raise (by omega) (by omega) htf
  have hrest : ∀ l ∈ (splitAtLevel k items).2, l.op.isUnary = false ∧ l.op.precedence = k
      ∧ Judged (k + 1) l.items (resolveItems l.items l.pos) := by
    intro l hl
    obtain ⟨hprec, htl⟩ := hlinks l hl
    have hwl := itemsWeight_lt_of_mem hl
    have hop : l.op.isUnary = false := by
      rw [Bool.eq_false_iff]
      intro hunary
      have := Operator.isUnary_iff.mp hunary
      omega
    refine ⟨hop, hprec, (ih l.items l.pos (by omega) ?_).raise (by omega) (by omega) htl⟩
    intro y hy
    exact hul y (List.mem_flatMap.mpr ⟨l, hl, List.mem_cons_of_mem _ hy⟩)
  split
  · rename_i f hf
    exact hfirst.stage hf
  · rename_i first hf
    have hchain := judged_resolveLinks hrest ((hfirst.binds hf).tighter (by omega))
    rw [← heq] at hchain
    exact hchain.lower hk1 (by omega)

theorem itemsWeight_append (xs ys : List Expr) :
    itemsWeight (xs ++ ys) = itemsWeight xs + itemsWeight ys := by
  induction xs with
  | nil => rw [List.nil_append, itemsWeight, Nat.zero_add]
  | cons x xs ih =>
      rw [List.cons_append, itemsWeight, itemsWeight, ih]
      omega

/-- **One step of the resolver is right.** -/
theorem resolveItems_stepJudged : StepJudged resolve resolveItems := by
  intro items pos hu ihx ih
  by_cases h2 : 2 ≤ items.length
  · rcases rootOf_cases items with ⟨_, hr⟩ | ⟨before, x, after, op, rfl, hx, hb, ha, hr⟩
    · obtain ⟨x, -, hp⟩ := resolveItems_of_no_root h2 hr pos
      rw [hp]
      rfl
    obtain ⟨hub, huxa⟩ := List.forall_mem_append.mp hu
    obtain ⟨hux, hua⟩ := List.forall_mem_cons.mp huxa
    obtain ⟨p, rfl⟩ : ∃ p, x = .mark op p := ⟨x.pos, hux.eq_mark hx⟩
    have hweight := itemsWeight_append before (.mark op p :: after)
    have hwx : itemsWeight (.mark op p :: after) = 2 + itemsWeight after := by
      simp only [itemsWeight, weight]
    rw [resolveItems_of_root h2 hr]
    cases hop : op.isUnary with
    | true =>
        have hprec := Operator.isUnary_iff.mp hop
        rw [hprec] at hb ha
        dsimp only [Expr.pos]
        rw [if_pos rfl]
        split
        · rename_i hzero
          obtain rfl := List.length_eq_zero_iff.mp hzero
          exact (ih after p (by omega) hua).prefixed hop ha p
        · split
          · rename_i hlast
            obtain ⟨hfollows, hlen⟩ := Bool.and_eq_true_iff.mp hlast
            have hzero : after.length = 0 := by
              have := of_decide_eq_true hlen
              simp only [List.length_append, List.length_cons] at this
              omega
            obtain rfl := List.length_eq_zero_iff.mp hzero
            rw [List.dropLast_concat]
            exact (ih before p (by omega) hub).postfixed hfollows hb p
          · rfl
    | false =>
        dsimp only
        rw [if_neg Bool.false_ne_true]
        have hle := Operator.precedence_of_binary hop
        split
        · rfl
        · refine judged_of_cut _ ih hu op.precedence_pos hle ?_ fun ht => ?_
          · refine tight_append.mpr ⟨hb, tight_cons.mpr ⟨fun o ho => ?_, ha.mono (by omega)⟩⟩
            cases ho
            exact Nat.le_refl _
          · have := (tight_cons.mp (tight_append.mp ht).2).1 op hx
            omega
  · cases items with
    | nil =>
        rw [resolveItems]
        rfl
    | cons x rest =>
        cases rest with
        | nil =>
            rw [resolveItems]
            exact (ihx x List.mem_cons_self).lower (by omega) (by omega)
        | cons y rest => exact absurd (Nat.le_add_left 2 rest.length) h2

/-! ## Resolution and the grammar -/

/-- **An expression resolves exactly if it is an operand of the grammar.** -/
theorem resolve_eq_ok_iff {x e : Expr} (hu : Unbound x) :
    resolve x = .ok e ↔ Binds 12 [x] e := by
  refine ⟨(resolve_descends.judged resolveItems_stepJudged hu).binds, fun h => ?_⟩
  have := h.resolves.1 none
  rwa [resolveItems] at this

/-- **A list resolves exactly if it binds at the loosest level.** -/
theorem resolveItems_eq_ok_iff {items : List Expr} {pos : Option Int} {e : Expr}
    (hu : ∀ x ∈ items, Unbound x) : resolveItems items pos = .ok e ↔ Binds 1 items e :=
  ⟨(resolve_descends.judgedItems resolveItems_stepJudged pos hu).binds, fun h => h.resolves.1 pos⟩

/-- An expression that does not resolve is refused by the resolution stage. -/
theorem resolve_stage {x : Expr} {f : LocatedFault} (hu : Unbound x) (h : resolve x = .error f) :
    f.fault.stage = .resolution :=
  (resolve_descends.judged resolveItems_stepJudged hu).stage h

end HashIf.Expr
