import HashIf.Expr
import HashIf.Fault

/-!
# `HashIf.Expr.Resolve`: binding operators to their operands

In a list of items the loosest operator is the root, the rightmost one if there are several.  A
unary root takes everything behind it, or everything in front of it if it may follow its operand.
For a binary root the list is cut at all operators of its precedence at once and the parts are
joined from the left, which binds a chain such as `A - B - C` as `(A - B) - C`.

## Contents
- `rootOf`: the root of a list.
- `splitAtLevel`: a list cut at all operators of one precedence.
- `emptySide?`: the operator that lacks an operand.
- `resolve`, `resolveItems`, `resolveLinks`: the recursion, on the weight of what is left.
-/

namespace HashIf.Expr

/-! ## The root of a list -/

/-- An operator among the items of a list. -/
structure Root where
  index : Nat
  op : Operator
  pos : Option Int

/-- The root of the items from index `i` on, where `best` is the root of those before. -/
def rootFrom (i : Nat) (best : Option Root) : List Expr → Option Root
  | [] => best
  | e :: es =>
    match e.operator?, best with
    | none, _ => rootFrom (i + 1) best es
    | some op, none => rootFrom (i + 1) (some ⟨i, op, e.pos⟩) es
    | some op, some b =>
      if op.precedence ≤ b.op.precedence then rootFrom (i + 1) (some ⟨i, op, e.pos⟩) es
      else rootFrom (i + 1) (some b) es

/-- The loosest operator of a list, the rightmost of several. -/
def rootOf (items : List Expr) : Option Root := rootFrom 0 none items

/-! ## Chains of one precedence -/

/-- A binary operator of a chain with the items up to the next one. -/
structure Link where
  op : Operator
  pos : Option Int
  items : List Expr

/-- Cuts a list at every operator of precedence `level`: the items in front of the first one, and
    then each operator with the items behind it. -/
def splitAtLevel (level : Nat) : List Expr → List Expr × List Link
  | [] => ([], [])
  | e :: es =>
    let r := splitAtLevel level es
    match e.operator? with
    | some op =>
      if op.precedence = level then ([], ⟨op, e.pos, r.1⟩ :: r.2) else (e :: r.1, r.2)
    | none => (e :: r.1, r.2)

/-- The link with nothing in front of the chain, or else the first with nothing behind it. -/
def emptySide? (first : List Expr) (links : List Link) : Option Link :=
  if first.isEmpty then links.head? else links.find? (·.items.isEmpty)

/-! ## The weight of what is left to resolve -/

mutual

/-- A bound on the number of steps for one expression. -/
def weight : Expr → Nat
  | .group items _ => 1 + itemsWeight items
  | .call _ e _ => 1 + weight e
  | _ => 1

/-- A bound on the number of steps for a list of items. -/
def itemsWeight : List Expr → Nat
  | [] => 0
  | e :: es => 1 + weight e + itemsWeight es

end

/-- A bound on the number of steps for the links of a chain. -/
def linksWeight : List Link → Nat
  | [] => 0
  | l :: ls => 1 + itemsWeight l.items + linksWeight ls

/-- Every expression takes a step. -/
theorem weight_pos (e : Expr) : 0 < weight e := by
  cases e <;> simp only [weight] <;> omega

/-- Cutting a list takes at least one step off for every cut. -/
theorem splitAtLevel_weight_le (level : Nat) (items : List Expr) :
    itemsWeight (splitAtLevel level items).1 + linksWeight (splitAtLevel level items).2
      + (splitAtLevel level items).2.length ≤ itemsWeight items := by
  induction items with
  | nil => simp [splitAtLevel, itemsWeight, linksWeight]
  | cons e es ih =>
      have := weight_pos e
      simp only [splitAtLevel]
      split
      · split
        · simp only [itemsWeight, linksWeight, List.length_cons]
          omega
        · simp only [itemsWeight]
          omega
      · simp only [itemsWeight]
        omega

/-- A cut that finds an operator leaves less in front of it. -/
theorem splitAtLevel_weight_lt (level : Nat) (items : List Expr)
    (h : ∃ e ∈ items, e.operator?.map Operator.precedence = some level) :
    itemsWeight (splitAtLevel level items).1 < itemsWeight items := by
  induction items with
  | nil => simp at h
  | cons e es ih =>
      have hw := splitAtLevel_weight_le level es
      simp only [splitAtLevel]
      split
      · rename_i op hop
        split
        · simp only [itemsWeight]
          omega
        · rename_i hne
          obtain ⟨x, hx, hxl⟩ := h
          rcases List.mem_cons.mp hx with rfl | hx
          · simp [hop] at hxl
            exact absurd hxl hne
          · have := ih ⟨x, hx, hxl⟩
            simp only [itemsWeight]
            omega
      · rename_i hop
        obtain ⟨x, hx, hxl⟩ := h
        rcases List.mem_cons.mp hx with rfl | hx
        · simp [hop] at hxl
        · have := ih ⟨x, hx, hxl⟩
          simp only [itemsWeight]
          omega

/-- The root that `rootFrom` finds is the one it was given or belongs to an item. -/
theorem rootFrom_mem {i : Nat} {best : Option Root} {items : List Expr} {r : Root}
    (h : rootFrom i best items = some r) :
    best = some r ∨ ∃ e ∈ items, e.operator? = some r.op := by
  induction items generalizing i best with
  | nil => exact Or.inl h
  | cons e es ih =>
      simp only [rootFrom] at h
      split at h
      · rcases ih h with h | ⟨x, hx, hop⟩
        · exact Or.inl h
        · exact Or.inr ⟨x, List.mem_cons_of_mem _ hx, hop⟩
      · rename_i op hop
        rcases ih h with h | ⟨x, hx, hop'⟩
        · cases h
          exact Or.inr ⟨e, List.mem_cons_self, hop⟩
        · exact Or.inr ⟨x, List.mem_cons_of_mem _ hx, hop'⟩
      · rename_i op b hop
        split at h
        · rcases ih h with h | ⟨x, hx, hop'⟩
          · cases h
            exact Or.inr ⟨e, List.mem_cons_self, hop⟩
          · exact Or.inr ⟨x, List.mem_cons_of_mem _ hx, hop'⟩
        · rcases ih h with h | ⟨x, hx, hop'⟩
          · exact Or.inl h
          · exact Or.inr ⟨x, List.mem_cons_of_mem _ hx, hop'⟩

/-- Cutting at the root of a list leaves less in front of the first cut. -/
theorem splitAtRoot_weight_lt {items : List Expr} {r : Root} (h : rootOf items = some r) :
    itemsWeight (splitAtLevel r.op.precedence items).1 < itemsWeight items := by
  apply splitAtLevel_weight_lt
  rcases rootFrom_mem h with h | ⟨e, he, hop⟩
  · cases h
  · exact ⟨e, he, by simp [hop]⟩

/-- The links of a chain weigh less than a list that is not empty. -/
theorem linksWeight_splitAtLevel_lt (level : Nat) (e : Expr) (es : List Expr) :
    linksWeight (splitAtLevel level (e :: es)).2 < itemsWeight (e :: es) := by
  have h := splitAtLevel_weight_le level (e :: es)
  cases hl : (splitAtLevel level (e :: es)).2 with
  | nil =>
      simp only [linksWeight, itemsWeight]
      omega
  | cons l ls =>
      rw [hl] at h
      simp only [List.length_cons] at h
      omega

/-- A list without its last item weighs less. -/
theorem itemsWeight_dropLast_lt (e : Expr) (es : List Expr) :
    itemsWeight (e :: es).dropLast < itemsWeight (e :: es) := by
  induction es generalizing e with
  | nil =>
      simp only [List.dropLast_singleton, itemsWeight]
      omega
  | cons f fs ih =>
      have := ih f
      rw [List.dropLast_cons_of_ne_nil (List.cons_ne_nil f fs)]
      simp only [itemsWeight] at this ⊢
      omega

/-! ## The recursion -/

mutual

/-- Binds the operators of an expression.  Bound operators stay as they are. -/
def resolve (e : Expr) : Except LocatedFault Expr :=
  match e with
  | .group items p => resolveItems items p
  | .call n a p => (.call n · p) <$> resolve a
  | .mark op p => .error ⟨.missingOperand op, p⟩
  | e => .ok e
termination_by weight e
decreasing_by
  all_goals simp only [weight]
  all_goals omega

/-- Binds the operators of a list of items into one expression; `pos` is where the list is
    expected to have something. -/
def resolveItems (items : List Expr) (pos : Option Int) : Except LocatedFault Expr :=
  match items with
  | [] => .error ⟨.expectedExpression, pos⟩
  | [e] => resolve e
  | e₁ :: e₂ :: es =>
    let all := e₁ :: e₂ :: es
    match _h : rootOf all with
    | none => .error ⟨.noOperator, e₂.pos⟩
    | some root =>
      if root.op.isUnary then
        if root.index = 0 then
          (.unary root.op · root.pos) <$> resolveItems (e₂ :: es) root.pos
        else if root.op.followsOperand && root.index = es.length + 1 then
          (.unary root.op · root.pos) <$> resolveItems all.dropLast root.pos
        else .error ⟨.misplacedUnary, root.pos⟩
      else
        -- All cuts are made at once, so a long chain does not nest.
        let parts := splitAtLevel root.op.precedence all
        match emptySide? parts.1 parts.2 with
        -- A missing operand is reported before any operand is looked into.
        | some l => .error ⟨.missingSide, l.pos⟩
        | none =>
          match resolveItems parts.1 (parts.2.head?.bind Link.pos) with
          | .error f => .error f
          | .ok first => resolveLinks first parts.2
termination_by itemsWeight items
decreasing_by
  · simp only [itemsWeight]
    omega
  · simp only [itemsWeight]
    omega
  · exact itemsWeight_dropLast_lt e₁ (e₂ :: es)
  · exact splitAtRoot_weight_lt _h
  · exact linksWeight_splitAtLevel_lt root.op.precedence e₁ (e₂ :: es)

/-- Joins a chain from the left, starting with its bound left operand. -/
def resolveLinks (left : Expr) (links : List Link) : Except LocatedFault Expr :=
  match links with
  | [] => .ok left
  | l :: ls =>
    match resolveItems l.items l.pos with
    | .error f => .error f
    | .ok right => resolveLinks (.binary l.op left right l.pos) ls
termination_by linksWeight links
decreasing_by
  all_goals simp only [linksWeight]
  all_goals omega

end

end HashIf.Expr
