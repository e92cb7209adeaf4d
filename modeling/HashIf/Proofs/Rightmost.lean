import HashIf.Proofs.Resolution

/-!
# `HashIf.Proofs.Rightmost`: cutting a chain at once and resolving it from the right

The resolver cuts a list at all operators of the loosest precedence and joins the parts from the
left.  The plain rule it stands for cuts at one operator only, the rightmost of the loosest ones, and
resolves both sides by the same rule.  Here that rule is a function of its own, and the two are shown
to accept the same lists and to build the same trees, offsets included.

Neither is unfolded into the other.  The rule is characterised by `Binds` as the resolver is, and
since `Binds` names the tree, both give the same one.

## Contents
- `Cut`, `cutRightmost`: a list around its rightmost loosest operator.
- `resolveRightmost`, `bindRightmost`: the plain rule.
- `bindRightmost_eq_ok_iff`: the rule accepts what binds at the loosest level.
- `resolve_iff_resolveRightmost`: the resolver follows the rule.
-/

namespace HashIf.Expr

/-! ## The cut -/

/-- An operator of a list with what stands on either side of it. -/
structure Cut where
  before : List Expr
  op : Operator
  pos : Option Int
  after : List Expr

/-- The cut with one more item in front. -/
def Cut.push (c : Cut) (x : Expr) : Cut := { c with before := x :: c.before }

/-- The list cut at its rightmost loosest operator. -/
def cutRightmost : List Expr → Option Cut
  | [] => none
  | x :: xs =>
    match x.operator?, cutRightmost xs with
    | none, c => c.map (·.push x)
    | some op, none => some ⟨[], op, x.pos, xs⟩
    | some op, some c =>
      -- Of two operators of one precedence the one to the right stays.
      if op.precedence < c.op.precedence then some ⟨[], op, x.pos, xs⟩ else some (c.push x)

/-- The operator of a cut belongs to the list. -/
theorem cutRightmost_mem {items : List Expr} {c : Cut} (h : cutRightmost items = some c) :
    ∃ x ∈ items, x.operator? = some c.op := by
  induction items generalizing c with
  | nil => cases h
  | cons x xs ih =>
      have hpush : ∀ c', cutRightmost xs = some c' → ∃ y ∈ x :: xs, y.operator? = some (c'.push x).op := by
        intro c' hc'
        obtain ⟨y, hy, hop⟩ := ih hc'
        exact ⟨y, List.mem_cons_of_mem x hy, hop⟩
      simp only [cutRightmost] at h
      split at h
      · obtain ⟨c', hc', rfl⟩ := Option.map_eq_some_iff.mp h
        exact hpush c' hc'
      · rename_i op hop _
        cases h
        exact ⟨x, List.mem_cons_self, hop⟩
      · rename_i op c' hop hc'
        split at h
        · cases h
          exact ⟨x, List.mem_cons_self, hop⟩
        · cases h
          exact hpush c' hc'

theorem cutRightmost_eq_none {items : List Expr} (h : Tight 12 items) : cutRightmost items = none := by
  cases hc : cutRightmost items with
  | none => rfl
  | some c =>
      obtain ⟨x, hx, hop⟩ := cutRightmost_mem hc
      rw [h.operator?_eq_none hx] at hop
      cases hop

/-- An operator with nothing looser in front and only tighter ones behind is where the list is cut. -/
theorem cutRightmost_append_cons {before after : List Expr} {x : Expr} {op : Operator}
    (hx : x.operator? = some op) (hb : Tight op.precedence before)
    (ha : Tight (op.precedence + 1) after) :
    cutRightmost (before ++ x :: after) = some ⟨before, op, x.pos, after⟩ := by
  induction before with
  | nil =>
      rw [List.nil_append]
      cases hc : cutRightmost after with
      | none => simp only [cutRightmost, hx, hc]
      | some c =>
          obtain ⟨y, hy, hop⟩ := cutRightmost_mem hc
          have hlt := ha y hy c.op hop
          simp only [cutRightmost, hx, hc]
          rw [if_pos (by omega)]
  | cons y ys ih =>
      obtain ⟨hy, hys⟩ := tight_cons.mp hb
      rw [List.cons_append]
      cases hopy : y.operator? with
      | none =>
          simp only [cutRightmost, ih hys, hopy]
          rfl
      | some opy =>
          have hle := hy opy hopy
          simp only [cutRightmost, ih hys, hopy]
          rw [if_neg (by omega)]
          rfl

/-- **Where a list is cut**: nowhere if it has no operators, and else at the rightmost loosest one. -/
theorem cutRightmost_cases (items : List Expr) :
    (Tight 12 items ∧ cutRightmost items = none) ∨ ∃ before x after op, items = before ++ x :: after
      ∧ x.operator? = some op ∧ Tight op.precedence before ∧ Tight (op.precedence + 1) after
      ∧ cutRightmost items = some ⟨before, op, x.pos, after⟩ := by
  rcases exists_loosest items with h | ⟨before, x, after, op, rfl, hx, hb, ha⟩
  · exact Or.inl ⟨h, cutRightmost_eq_none h⟩
  · exact Or.inr ⟨before, x, after, op, rfl, hx, hb, ha, cutRightmost_append_cons hx hb ha⟩

/-- Both sides of a cut together weigh less than the list. -/
theorem cutRightmost_weight_lt {items : List Expr} {c : Cut} (h : cutRightmost items = some c) :
    itemsWeight c.before + itemsWeight c.after < itemsWeight items := by
  rcases cutRightmost_cases items with ⟨_, hn⟩ | ⟨before, x, after, op, rfl, _, _, _, hc⟩
  · rw [hn] at h
    cases h
  · obtain rfl := Option.some.inj (hc.symm.trans h)
    rw [itemsWeight_append, itemsWeight]
    dsimp only
    omega

/-! ## The plain rule -/

mutual

/-- Binds the operators of an expression by the plain rule. -/
def resolveRightmost (e : Expr) : Except LocatedFault Expr :=
  match e with
  | .group items p => bindRightmost items p
  | .call n a p => (.call n · p) <$> resolveRightmost a
  | .mark op p => .error ⟨.missingOperand op, p⟩
  | e => .ok e
termination_by weight e
decreasing_by
  all_goals simp only [weight]
  all_goals omega

/-- Makes the rightmost loosest operator of a list the root and treats both sides the same way. -/
def bindRightmost (items : List Expr) (pos : Option Int) : Except LocatedFault Expr :=
  match items with
  | [] => .error ⟨.expectedExpression, pos⟩
  | [e] => resolveRightmost e
  | e₁ :: e₂ :: es =>
    match _h : cutRightmost (e₁ :: e₂ :: es) with
    | none => .error ⟨.noOperator, e₂.pos⟩
    | some c =>
      if c.op.isUnary then
        if c.before.isEmpty then (.unary c.op · c.pos) <$> bindRightmost c.after c.pos
        else if c.op.followsOperand && c.after.isEmpty then
          (.unary c.op · c.pos) <$> bindRightmost c.before c.pos
        else .error ⟨.misplacedUnary, c.pos⟩
      else if c.before.isEmpty || c.after.isEmpty then .error ⟨.missingSide, c.pos⟩
      else
        match bindRightmost c.before c.pos with
        | .error f => .error f
        | .ok left => (.binary c.op left · c.pos) <$> bindRightmost c.after c.pos
termination_by itemsWeight items
decreasing_by
  · simp only [itemsWeight]
    omega
  all_goals
    have := cutRightmost_weight_lt _h
    omega

end

/-- **A list of several items with a cut**, without reference to how the list is built. -/
theorem bindRightmost_of_cut {items : List Expr} (h2 : 2 ≤ items.length) {c : Cut}
    (hc : cutRightmost items = some c) (pos : Option Int) :
    bindRightmost items pos =
      if c.op.isUnary then
        if c.before.isEmpty then (.unary c.op · c.pos) <$> bindRightmost c.after c.pos
        else if c.op.followsOperand && c.after.isEmpty then
          (.unary c.op · c.pos) <$> bindRightmost c.before c.pos
        else .error ⟨.misplacedUnary, c.pos⟩
      else if c.before.isEmpty || c.after.isEmpty then .error ⟨.missingSide, c.pos⟩
      else
        match bindRightmost c.before c.pos with
        | .error f => .error f
        | .ok left => (.binary c.op left · c.pos) <$> bindRightmost c.after c.pos := by
  match items, h2 with
  | e₁ :: e₂ :: es, _ =>
      rw [bindRightmost]
      split
      · rename_i hnone
        rw [hc] at hnone
        cases hnone
      · rename_i c' hc'
        obtain rfl : c = c' := Option.some.inj (hc.symm.trans hc')
        rfl

theorem bindRightmost_of_no_cut {items : List Expr} (h2 : 2 ≤ items.length)
    (hc : cutRightmost items = none) (pos : Option Int) :
    ∃ p, bindRightmost items pos = .error ⟨.noOperator, p⟩ := by
  match items, h2 with
  | e₁ :: e₂ :: es, _ =>
      refine ⟨e₂.pos, ?_⟩
      rw [bindRightmost]
      split
      · rfl
      · rename_i c hsome
        rw [hc] at hsome
        cases hsome

/-! ## The rule and the grammar -/

/-- What the grammar accepts is bound by the rule to the same tree. -/
theorem Binds.bindsRightmost {k : Nat} {items : List Expr} {e : Expr} (h : Binds k items e) :
    ∀ pos, bindRightmost items pos = .ok e := by
  induction h with
  | var | num | emptyCall =>
      intro pos
      simp only [bindRightmost, resolveRightmost]
  | call n p _ ih =>
      intro pos
      have ha := ih none
      rw [bindRightmost] at ha
      rw [bindRightmost, resolveRightmost, ha]
      rfl
  | group p _ ih =>
      intro pos
      rw [bindRightmost, resolveRightmost]
      exact ih p
  | @prefixed op x e p hop h ih =>
      intro pos
      have ht : Tight (op.precedence + 1) [x] := (Operator.isUnary_iff.mp hop).symm ▸ h.tight
      have hcut : cutRightmost [.mark op p, x] = some ⟨[], op, p, [x]⟩ :=
        @cutRightmost_append_cons [] [x] (.mark op p) op rfl tight_nil ht
      rw [bindRightmost_of_cut (by simp) hcut, hop, if_pos rfl, if_pos (by rfl), ih]
      rfl
  | @postfixed op items e p hop h ih =>
      intro pos
      have hunary := Operator.isUnary_of_followsOperand hop
      have hprec := Operator.isUnary_iff.mp hunary
      have hcut : cutRightmost (items ++ [.mark op p]) = some ⟨items, op, p, []⟩ :=
        cutRightmost_append_cons (x := .mark op p) rfl (hprec.symm ▸ h.tight) tight_nil
      have hpos := List.length_pos_iff.mpr h.ne_nil
      have h2 : 2 ≤ (items ++ [Expr.mark op p]).length := by
        rw [List.length_append, List.length_singleton]
        omega
      rw [bindRightmost_of_cut h2 hcut, hunary, if_pos rfl, if_neg (by simpa using h.ne_nil),
        if_pos (by simpa using hop), ih]
      rfl
  | tighter _ _ ih => exact ih
  | @join k op ls rs l r p hop hk hl hr ihl ihr =>
      intro pos
      subst hk
      have hcut : cutRightmost (ls ++ .mark op p :: rs) = some ⟨ls, op, p, rs⟩ :=
        cutRightmost_append_cons (x := .mark op p) rfl hl.tight hr.tight
      have hpos := List.length_pos_iff.mpr hl.ne_nil
      have h2 : 2 ≤ (ls ++ Expr.mark op p :: rs).length := by
        rw [List.length_append, List.length_cons]
        omega
      rw [bindRightmost_of_cut h2 hcut, hop, if_neg Bool.false_ne_true,
        if_neg (by simpa using ⟨hl.ne_nil, hr.ne_nil⟩)]
      dsimp only
      rw [ihl, ihr]
      rfl

/-- The rule outside of lists. -/
theorem resolveRightmost_descends : Descends resolveRightmost bindRightmost where
  var _ _ := by simp only [resolveRightmost]
  num _ _ := by simp only [resolveRightmost]
  emptyCall _ _ := by simp only [resolveRightmost]
  mark _ _ := by simp only [resolveRightmost]
  call _ _ _ := by simp only [resolveRightmost]
  group _ _ := by simp only [resolveRightmost]

/-- **One step of the rule is right.** -/
theorem bindRightmost_stepJudged : StepJudged resolveRightmost bindRightmost := by
  intro items pos hu ihx ih
  by_cases h2 : 2 ≤ items.length
  · rcases cutRightmost_cases items with ⟨_, hc⟩ | ⟨before, x, after, op, rfl, hx, hb, ha, hc⟩
    · obtain ⟨p, hp⟩ := bindRightmost_of_no_cut h2 hc pos
      rw [hp]
      rfl
    have hweight := cutRightmost_weight_lt hc
    dsimp only at hweight
    obtain ⟨hub, huxa⟩ := List.forall_mem_append.mp hu
    obtain ⟨hux, hua⟩ := List.forall_mem_cons.mp huxa
    obtain ⟨p, rfl⟩ : ∃ p, x = .mark op p := ⟨x.pos, hux.eq_mark hx⟩
    have hjb := ih before p (by omega) hub
    have hja := ih after p (by omega) hua
    rw [bindRightmost_of_cut h2 hc]
    dsimp only [Expr.pos]
    cases hop : op.isUnary with
    | true =>
        have hprec := Operator.isUnary_iff.mp hop
        rw [hprec] at hb ha
        rw [if_pos rfl]
        split
        · rename_i hempty
          obtain rfl := List.isEmpty_iff.mp hempty
          exact hja.prefixed hop ha p
        · split
          · rename_i hlast
            obtain ⟨hfollows, hempty⟩ := Bool.and_eq_true_iff.mp hlast
            obtain rfl := List.isEmpty_iff.mp hempty
            exact hjb.postfixed hfollows hb p
          · rfl
    | false =>
        have hle := Operator.precedence_of_binary hop
        have hpos := op.precedence_pos
        rw [if_neg Bool.false_ne_true]
        split
        · rfl
        · split
          · rename_i f hf
            exact hjb.stage hf
          · rename_i l hl
            have hleft := (hjb.binds hl).raise hpos (by omega) hb
            refine (hja.raise (by omega) (by omega) ha).map fun e he => ?_
            exact (hleft.join p hop rfl he).lower hpos (by omega)
  · match items, h2 with
    | [], _ =>
        rw [bindRightmost]
        rfl
    | [x], _ =>
        rw [bindRightmost]
        exact (ihx x List.mem_cons_self).lower (by omega) (by omega)
    | _ :: _ :: _, h2 => exact absurd (by simp) h2

/-- **The rule accepts exactly what binds at the loosest level.** -/
theorem bindRightmost_eq_ok_iff {items : List Expr} {pos : Option Int} {e : Expr}
    (hu : ∀ x ∈ items, Unbound x) : bindRightmost items pos = .ok e ↔ Binds 1 items e :=
  ⟨(resolveRightmost_descends.judgedItems bindRightmost_stepJudged pos hu).binds,
    fun h => h.bindsRightmost pos⟩

/-! ## The resolver follows the rule -/

/-- **Cutting a chain at once is the same as resolving it from the right.**  On a list in which no
    operator is bound yet, at any depth, the resolver succeeds exactly if the plain rule does and
    then builds the same tree with the same offsets; where they fail, both fail in the resolution
    stage. -/
theorem resolve_iff_resolveRightmost (items : List Expr) (pos : Option Int)
    (hu : ∀ x ∈ items, Unbound x) :
    (∀ e, resolve (.group items pos) = .ok e ↔ resolveRightmost (.group items pos) = .ok e)
    ∧ (∀ f, resolve (.group items pos) = .error f → f.fault.stage = .resolution)
    ∧ ∀ f, resolveRightmost (.group items pos) = .error f → f.fault.stage = .resolution := by
  have hg : Unbound (.group items pos) := .group pos hu
  refine ⟨fun e => ?_, fun f => resolve_stage hg,
    fun f => (resolveRightmost_descends.judged bindRightmost_stepJudged hg).stage⟩
  rw [resolve_descends.group, resolveRightmost_descends.group, resolveItems_eq_ok_iff hu,
    bindRightmost_eq_ok_iff hu]

/-- The items of `A - (-B) - f(C)`. -/
def mixedChain : List Expr :=
  [.var "A" (some 0), .mark .sub (some 2), .group [.mark .minus (some 5), .var "B" (some 6)] (some 4),
   .mark .sub (some 9), .call "f" (.var "C" (some 13)) (some 11)]

/-- The tree of `A - (-B) - f(C)`, nested to the left. -/
def mixedChainTree : Expr :=
  .binary .sub
    (.binary .sub (.var "A" (some 0)) (.unary .minus (.var "B" (some 6)) (some 5)) (some 2))
    (.call "f" (.var "C" (some 13)) (some 11)) (some 9)

theorem mixedChain_unbound : ∀ x ∈ mixedChain, Unbound x := by
  simp only [mixedChain, List.forall_mem_cons, List.not_mem_nil, false_implies, implies_true, and_true]
  refine ⟨.var _ _, .mark _ _, .group _ ?_, .mark _ _, .call _ _ (.var _ _)⟩
  simp only [List.forall_mem_cons, List.not_mem_nil, false_implies, implies_true, and_true]
  exact ⟨.mark _ _, .var _ _⟩

theorem mixedChain_binds : Binds 1 mixedChain mixedChainTree := by
  have hA : Binds 9 [.var "A" (some 0)] _ := (Binds.var _ _).lower (by omega) (by omega)
  have hneg : Binds 11 [.mark .minus (some 5), .var "B" (some 6)] _ := .prefixed _ rfl (.var _ _)
  have hB : Binds 10 [.group _ (some 4)] _ :=
    (Binds.group _ (hneg.lower (by omega) (by omega))).lower (by omega) (by omega)
  have hC : Binds 10 [.call "f" _ (some 11)] _ :=
    (Binds.call _ _ (.var "C" (some 13))).lower (by omega) (by omega)
  have hAB : Binds 9 ([_] ++ .mark .sub (some 2) :: [_]) _ := hA.join _ rfl rfl hB
  have hABC : Binds 9 mixedChain mixedChainTree :=
    @Binds.join 9 .sub _ _ _ _ (some 9) rfl rfl hAB hC
  exact hABC.lower (by omega) (by omega)

/-- The two agree on a chain with a nested group and a call, which both bind to the left. -/
theorem resolve_iff_resolveRightmost_mixedChain :
    (∀ x ∈ mixedChain, Unbound x)
    ∧ resolve (.group mixedChain none) = .ok mixedChainTree
    ∧ resolveRightmost (.group mixedChain none) = .ok mixedChainTree := by
  have hr : resolve (.group mixedChain none) = .ok mixedChainTree := by
    rw [resolve_descends.group, resolveItems_eq_ok_iff mixedChain_unbound]
    exact mixedChain_binds
  exact ⟨mixedChain_unbound, hr,
    ((resolve_iff_resolveRightmost mixedChain none mixedChain_unbound).1 _).mp hr⟩

end HashIf.Expr
