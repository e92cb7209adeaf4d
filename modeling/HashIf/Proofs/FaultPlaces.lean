import HashIf.Proofs.Outcomes
import HashIf.Proofs.StrictTree

/-!
# `HashIf.Proofs.FaultPlaces`: where faults are found

Most faults are found at a token: what is blamed is an operator, an operand, a bracket or a call, and the
offset in the fault is that of its token.  No stage makes up an offset.  Brackets give groups the offset
of the opening one, joined calls keep the offset of their name, and a cut gives every part the offset of
the operator beside it.  So it is enough to carry one fact through the stages: if every node has the offset
of a token, then so has every fault.

Four causes are apart from this: the three of the lexer, which are found where no token is, and a bracket
that is not closed, which is missed behind the last token.  Too deep a nesting is found nowhere, be it by
the parser or by a reading.

## Contents
- `Fault.isTooDeep`, `Fault.isAtToken`: the causes that are found nowhere, and those found at a token.
- `FaultsAt`: a result whose fault has an offset with a given property.
- `faultsAt_resolve`, `faultsAt_resolveItems`, `faultsAt_resolveLinks`: binding operators.
- `Derivation.faultsAt_strict`, `Derivation.faultsAt_extended`: the two readings of a tree.
- `PlaceIn`, `placeIn_of_resolveTokens`: where a fault in a list of tokens is found.
-/

namespace HashIf

/-- The causes that are found nowhere, because a recursion was given up. -/
def Fault.isTooDeep : Fault → Bool
  | nestedTooDeeply | conditionTooDeep => true
  | _ => false

theorem Fault.isTooDeep_iff {fault : Fault} :
    fault.isTooDeep = true ↔ fault = .nestedTooDeeply ∨ fault = .conditionTooDeep := by
  cases fault <;> simp [isTooDeep]

/-- The causes that are found at a token. -/
def Fault.isAtToken : Fault → Bool
  | badLiteral _ | pointInName | invalidCharacter _ | missingClosing => false
  | fault => !fault.isTooDeep

/-- If the result is a fault, it is one that is found at a token, and its offset satisfies `P`. -/
def FaultsAt {α : Type} (P : Option Int → Prop) : Except LocatedFault α → Prop
  | .ok _ => True
  | .error f => f.fault.isAtToken = true ∧ P f.pos

namespace FaultsAt

variable {α β : Type} {P : Option Int → Prop} {r : Except LocatedFault α}

theorem map (h : FaultsAt P r) (g : α → β) : FaultsAt P (g <$> r) := by
  cases r with
  | error f => exact h
  | ok a => trivial

theorem bind (h : FaultsAt P r) {g : α → Except LocatedFault β} (hg : ∀ a, FaultsAt P (g a)) :
    FaultsAt P (r.bind g) := by
  cases r with
  | error f => exact h
  | ok a => exact hg a

end FaultsAt

/-! ## Binding operators -/

namespace Expr

variable {P : Option Int → Prop}

/-- A cut makes up no offset: the offset of a link is that of its operator. -/
theorem splitAtLevel_placed (level : Nat) {items : List Expr} (h : ∀ x ∈ items, Placed P x) :
    (∀ x ∈ (splitAtLevel level items).1, Placed P x)
      ∧ ∀ l ∈ (splitAtLevel level items).2, P l.pos ∧ ∀ x ∈ l.items, Placed P x := by
  induction items with
  | nil => exact ⟨h, List.forall_mem_nil _⟩
  | cons y ys ih =>
      obtain ⟨hy, hys⟩ := List.forall_mem_cons.mp h
      obtain ⟨hfirst, hlinks⟩ := ih hys
      simp only [splitAtLevel]
      split
      · split
        · exact ⟨List.forall_mem_nil _, List.forall_mem_cons.mpr ⟨⟨hy.pos, hfirst⟩, hlinks⟩⟩
        · exact ⟨List.forall_mem_cons.mpr ⟨hy, hfirst⟩, hlinks⟩
      · exact ⟨List.forall_mem_cons.mpr ⟨hy, hfirst⟩, hlinks⟩

/-- The offset of a root is that of its item. -/
theorem root_placed {items : List Expr} {root : Root} (h : ∀ x ∈ items, Placed P x)
    (hroot : rootOf items = some root) : P root.pos := by
  obtain ⟨x, hx, -, hpos⟩ := (rootLookups_of_rootOf hroot).item
  rw [← hpos]
  exact (h x (List.mem_of_getElem? hx)).pos

/-- The operator that lacks an operand is one of those that the list was cut at. -/
theorem mem_of_emptySide? {first : List Expr} {links : List Link} {l : Link}
    (h : emptySide? first links = some l) : l ∈ links := by
  unfold emptySide? at h
  split at h
  · exact List.mem_of_head? h
  · exact List.mem_of_find?_eq_some h

mutual

/-- **A fault in an expression has the offset of one of its nodes.** -/
theorem faultsAt_resolve {e : Expr} (he : Placed P e) : FaultsAt P (resolve e) := by
  cases he with
  | group hp hitems =>
      rw [resolve]
      exact faultsAt_resolveItems hitems fun _ => hp
  | call n hp ha =>
      rw [resolve]
      exact (faultsAt_resolve ha).map _
  | mark op hp =>
      rw [resolve]
      exact ⟨rfl, hp⟩
  | var | num | emptyCall =>
      simp only [resolve]
      trivial
termination_by weight e
decreasing_by
  all_goals simp only [weight]
  all_goals omega

/-- **A fault in a list of items has the offset of one of their nodes**, or that of the list if it is
    empty. -/
theorem faultsAt_resolveItems {items : List Expr} {pos : Option Int} (hitems : ∀ x ∈ items, Placed P x)
    (hpos : items = [] → P pos) : FaultsAt P (resolveItems items pos) := by
  match items with
  | [] =>
      rw [resolveItems]
      exact ⟨rfl, hpos rfl⟩
  | [x] =>
      rw [resolveItems]
      exact faultsAt_resolve (hitems x List.mem_cons_self)
  | e₁ :: e₂ :: es =>
      have h2 : 2 ≤ (e₁ :: e₂ :: es).length := Nat.le_add_left 2 _
      cases hroot : rootOf (e₁ :: e₂ :: es) with
      | none =>
          obtain ⟨x, hx, hres⟩ := resolveItems_of_no_root h2 hroot pos
          rw [hres]
          exact ⟨rfl, (hitems x (List.mem_of_getElem? hx)).pos⟩
      | some root =>
          have hrootpos := root_placed hitems hroot
          rw [resolveItems_of_root h2 hroot]
          by_cases hunary : root.op.isUnary = true
          · rw [if_pos hunary]
            -- Where the operand of a unary root is missing, the root itself is blamed.
            split
            · refine (faultsAt_resolveItems (fun x hx => ?_) fun _ => hrootpos).map _
              exact hitems x (List.mem_of_mem_tail hx)
            · split
              · refine (faultsAt_resolveItems (fun x hx => ?_) fun _ => hrootpos).map _
                exact hitems x (List.mem_of_mem_dropLast hx)
              · exact ⟨rfl, hrootpos⟩
          · have hbinary : root.op.isUnary = false := Bool.eq_false_iff.mpr hunary
            obtain ⟨hfirst, hlinks⟩ := splitAtLevel_placed root.op.precedence hitems
            rw [if_neg hunary]
            dsimp only
            split
            · rename_i l hl
              exact ⟨rfl, (hlinks l (mem_of_emptySide? hl)).1⟩
            · rename_i hside
              have hne := ((rootLookups_of_rootOf hroot).blamed hbinary hside).1
              have hleft : FaultsAt P (resolveItems (splitAtLevel root.op.precedence (e₁ :: e₂ :: es)).1
                  ((splitAtLevel root.op.precedence (e₁ :: e₂ :: es)).2.head?.bind Link.pos)) :=
                faultsAt_resolveItems hfirst fun hnil => absurd hnil hne
              split
              · rename_i f hf
                rw [hf] at hleft
                exact hleft
              · rename_i first hf
                exact faultsAt_resolveLinks first hlinks
termination_by itemsWeight items
decreasing_by
  · simp only [itemsWeight]
    omega
  · exact itemsWeight_dropLast_lt e₁ (e₂ :: es)
  · simp only [List.tail_cons, itemsWeight]
    omega
  · exact splitAtRoot_weight_lt hroot
  · exact linksWeight_splitAtLevel_lt root.op.precedence e₁ (e₂ :: es)

/-- **A fault in a chain has the offset of an operator of the chain or of a node between them.** -/
theorem faultsAt_resolveLinks (left : Expr) {links : List Link}
    (hlinks : ∀ l ∈ links, P l.pos ∧ ∀ x ∈ l.items, Placed P x) : FaultsAt P (resolveLinks left links) := by
  match links with
  | [] =>
      rw [resolveLinks]
      trivial
  | l :: ls =>
      obtain ⟨⟨hpos, hitems⟩, hrest⟩ := List.forall_mem_cons.mp hlinks
      have hright := faultsAt_resolveItems hitems fun _ => hpos
      rw [resolveLinks]
      split
      · rename_i f hf
        rw [hf] at hright
        exact hright
      · rename_i right _
        exact faultsAt_resolveLinks _ hrest
termination_by linksWeight links
decreasing_by
  all_goals simp only [linksWeight]
  all_goals omega

end

end Expr

/-! ## The two readings of a tree -/

namespace Condition

section

variable {P : Option Int → Prop} {pos : Option Int}

theorem faultsAt_testedVariable (hp : P pos) (name : String) (argument : Option Expr) :
    FaultsAt P (testedVariable name argument pos) := by
  unfold testedVariable
  split
  · exact ⟨rfl, hp⟩
  · trivial
  · exact ⟨rfl, hp⟩

theorem faultsAt_strictCall (hp : P pos) (o : Options) (name : String) (argument : Option Expr) :
    FaultsAt P (strictCall o name argument pos) := by
  unfold strictCall testFormula
  cases ConfigTest.ofName? o.linux name with
  | none => exact ⟨rfl, hp⟩
  | some t =>
      have htested := faultsAt_testedVariable hp name argument
      cases hx : testedVariable name argument pos with
      | error f =>
          rw [hx] at htested
          exact htested
      | ok x => trivial

theorem faultsAt_encodeComparison (hp : P pos) (fuzzy : Bool) (op : Operator) (l r : Option Expr) :
    FaultsAt P (encodeComparison fuzzy op l r pos) := by
  unfold encodeComparison
  split
  · exact ⟨rfl, hp⟩
  · split
    · trivial
    · exact ⟨rfl, hp⟩

/-- What is left for an operator that is neither a connective, a negation nor a comparison. -/
theorem faultsAt_sign (hp : P pos) (op : Operator) (a : Expr) (g : Number → Formula) :
    FaultsAt P (match negatedNumber? op a with
      | some v => .ok (g v)
      | none => .error ⟨.unsupportedOperator op, pos⟩) := by
  cases negatedNumber? op a with
  | none => exact ⟨rfl, hp⟩
  | some v => trivial

theorem faultsAt_strict_unary {o : Options} {a : Expr} (ha : FaultsAt P (strict o a)) (hp : P pos)
    (op : Operator) : FaultsAt P (strict o (.unary op a pos)) := by
  rw [strict]
  split
  · cases hres : strict o a with
    | error f =>
        rw [hres] at ha
        exact ha
    | ok g => exact ⟨rfl, hp⟩
  split
  · exact ha.map _
  split
  · exact faultsAt_encodeComparison hp o.fuzzy op (some a) none
  · exact faultsAt_sign hp op a truth

theorem faultsAt_strict_binary {o : Options} {l r : Expr} (hl : FaultsAt P (strict o l))
    (hr : FaultsAt P (strict o r)) (hp : P pos) (op : Operator) :
    FaultsAt P (strict o (.binary op l r pos)) := by
  by_cases hop : op.isConnective = true
  · rw [strict_connective o hop]
    exact hl.bind fun left => hr.bind fun right => trivial
  rw [strict, if_neg hop]
  split
  · exact hl.map _
  split
  · exact faultsAt_encodeComparison hp o.fuzzy op (some l) (some r)
  · exact faultsAt_sign hp op l truth

theorem faultsAt_extended_unary {linux : Bool} {a : Expr} (ha : FaultsAt P (extended linux a)) (hp : P pos)
    (op : Operator) : FaultsAt P (extended linux (.unary op a pos)) := by
  rw [extended]
  split
  · exact ha.map _
  · exact faultsAt_sign hp op a negativeLiteral

theorem faultsAt_extended_call {linux : Bool} {a : Expr} (ha : FaultsAt P (extended linux a)) (hp : P pos)
    (name : String) : FaultsAt P (extended linux (.call name a pos)) := by
  rw [extended]
  split
  · exact (faultsAt_testedVariable hp name (some a)).map _
  · exact ha.map _

end

end Condition

namespace Derivation

open Condition

variable {P : Option Int → Prop}

/-- **Where the strict reading of a tree fails, it blames a token of the condition.** -/
theorem faultsAt_strict {k : Nat} (d : Derivation k) (hd : ∀ t ∈ d.yield, P (some (t.pos : Int)))
    (o : Options) : FaultsAt P (strict o d.tree) := by
  induction d with
  | number p n v =>
      rw [tree, strict]
      trivial
  | name p s =>
      rw [tree, strict]
      split
      · trivial
      · exact ⟨rfl, hd (.name p s) List.mem_cons_self⟩
  | brackets p d q ih => exact ih (List.forall_mem_append.mp (List.forall_mem_cons.mp hd).2).1
  | emptyCall p s q q' =>
      rw [tree, strict]
      exact faultsAt_strictCall (hd (.name p s) List.mem_cons_self) o s none
  | call p s q d q' ih =>
      rw [tree, strict]
      exact faultsAt_strictCall (hd (.name p s) List.mem_cons_self) o s (some d.tree)
  | defined p q s =>
      rw [tree, strict]
      exact faultsAt_strictCall (hd (.name p Expr.definedName) List.mem_cons_self) o _ _
  | prefixed p op hop d ih =>
      obtain ⟨hp, hd⟩ := List.forall_mem_cons.mp hd
      exact faultsAt_strict_unary (ih hd) hp op
  | postfixed d p op hop ih =>
      obtain ⟨hd, hp⟩ := List.forall_mem_append.mp hd
      exact faultsAt_strict_unary (ih hd) (hp _ List.mem_cons_self) op
  | tighter hk d ih => exact ih hd
  | join l p op hop hk r ihl ihr =>
      obtain ⟨hl, hrest⟩ := List.forall_mem_append.mp hd
      obtain ⟨hp, hr⟩ := List.forall_mem_cons.mp hrest
      exact faultsAt_strict_binary (ihl hl) (ihr hr) hp op

/-- **So does the extended reading.** -/
theorem faultsAt_extended {k : Nat} (d : Derivation k) (hd : ∀ t ∈ d.yield, P (some (t.pos : Int)))
    (linux : Bool) : FaultsAt P (extended linux d.tree) := by
  induction d with
  | number p n v =>
      rw [tree, extended]
      trivial
  | name p s =>
      rw [tree, extended]
      trivial
  | brackets p d q ih => exact ih (List.forall_mem_append.mp (List.forall_mem_cons.mp hd).2).1
  | emptyCall p s q q' =>
      rw [tree, extended]
      split
      · exact (faultsAt_testedVariable (hd (.name p s) List.mem_cons_self) s none).map _
      · trivial
  | call p s q d q' ih =>
      obtain ⟨hp, hrest⟩ := List.forall_mem_cons.mp hd
      have hinner := (List.forall_mem_append.mp (List.forall_mem_cons.mp hrest).2).1
      exact faultsAt_extended_call (ih hinner) hp s
  | defined p q s =>
      have hvar : FaultsAt P (extended linux (.var s (some q))) := by
        rw [extended]
        trivial
      exact faultsAt_extended_call hvar (hd (.name p Expr.definedName) List.mem_cons_self) _
  | prefixed p op hop d ih =>
      obtain ⟨hp, hd⟩ := List.forall_mem_cons.mp hd
      exact faultsAt_extended_unary (ih hd) hp op
  | postfixed d p op hop ih =>
      obtain ⟨hd, hp⟩ := List.forall_mem_append.mp hd
      exact faultsAt_extended_unary (ih hd) (hp _ List.mem_cons_self) op
  | tighter hk d ih => exact ih hd
  | join l p op hop hk r ihl ihr =>
      obtain ⟨hl, hrest⟩ := List.forall_mem_append.mp hd
      obtain ⟨-, hr⟩ := List.forall_mem_cons.mp hrest
      rw [tree, extended_binary linux hop l.leftEdge_tree]
      exact (ihl hl).bind fun left => (ihr hr).bind fun right => trivial

end Derivation

/-! ## Faults in a list of tokens -/

/-- The offset is that of a token. -/
def StartsToken (ts : List Token) (pos : Option Int) : Prop := ∃ t ∈ ts, pos = some (t.pos : Int)

/-- Where a fault in a list of tokens is found. -/
inductive PlaceIn (ts : List Token) : LocatedFault → Prop where
  /-- Nowhere. -/
  | nowhere : PlaceIn ts ⟨.nestedTooDeeply, none⟩
  /-- At a token. -/
  | token {fault : Fault} {t : Token} (hfault : fault.isAtToken = true) (ht : t ∈ ts) :
      PlaceIn ts ⟨fault, some t.pos⟩
  /-- Behind the last token. -/
  | behind {last : Token} (hlast : ts.getLast? = some last) : PlaceIn ts ⟨.missingClosing, some last.endPos⟩
  /-- At the start, because there are no tokens. -/
  | start (hnil : ts = []) : PlaceIn ts ⟨.expectedExpression, some 0⟩

theorem PlaceIn.of_faultsAt {α : Type} {ts : List Token} {r : Except LocatedFault α} {f : LocatedFault}
    (h : FaultsAt (StartsToken ts) r) (hr : r = .error f) : PlaceIn ts f := by
  subst hr
  obtain ⟨hfault, t, ht, hpos⟩ := h
  have hf : f = ⟨f.fault, some (t.pos : Int)⟩ := by rw [← hpos]
  rw [hf]
  exact .token hfault ht

namespace Expr

theorem Imbalance.placeIn {ts : List Token} {fault : Fault} {k : Nat} (h : Imbalance ts fault k) :
    PlaceIn ts ⟨fault, some (k : Int)⟩ := by
  cases h with
  | @closing us _ hpre _ =>
      have hmem : Token.bracket k false ∈ ts := hpre.subset (List.mem_append_right _ List.mem_cons_self)
      exact .token rfl hmem
  | opening hlast _ _ => exact .behind hlast

/-- A fault in the items of a list of tokens.  The offset that stands for the whole list is used only if
    there is nothing in it. -/
theorem placeIn_of_resolve {ts : List Token} {items : List Expr} {f : LocatedFault} (hn : Nested ts items)
    (h : resolve (detectCalls (ofItems items)) = .error f) : PlaceIn ts f := by
  have hplaced : ∀ x ∈ items, Placed (StartsToken ts) x := hn.placed fun t ht => ⟨t, ht, rfl⟩
  match items with
  | [] =>
      rw [ofItems, detectCalls, resolve] at h
      · simp only [detectItems, mergeCalls, resolveItems] at h
        cases h
        exact .start hn.eq_nil
      · intro x hx
        cases hx
  | [x] => exact .of_faultsAt (faultsAt_resolve (detectCalls_placed (hplaced x List.mem_cons_self))) h
  | x :: y :: rest =>
      rw [ofItems, detectCalls, resolve] at h
      · have hne : joined (x :: y :: rest) ≠ [] := fun hnil => by cases joined_eq_nil hnil
        exact .of_faultsAt (faultsAt_resolveItems (joined_placed hplaced) fun hnil => absurd hnil hne) h
      · intro z hz
        cases hz

/-- **Where a fault in a list of tokens is found**: behind the last one, at one of them, at the start if
    there are none, and nowhere if the nesting is too deep. -/
theorem placeIn_of_resolveTokens [CallStack] {ts : List Token} {f : LocatedFault}
    (h : resolveTokens ts = .error f) : PlaceIn ts f := by
  unfold resolveTokens at h
  rcases ofTokens_cases ts with ⟨-, nested, hnested⟩ | ⟨fault, k, himbalance, herror⟩
  · obtain ⟨items, hn, rfl⟩ := ofTokens_eq_ok_iff.mp hnested
    simp only [hnested] at h
    rcases CallStack.within_eq_error h with rfl | h
    · exact .nowhere
    · unfold bindNested at h
      split at h
      · rename_i g hres
        cases h
        exact placeIn_of_resolve hn hres
      · rename_i e hres
        rw [hasGroup_of_resolve hn hres] at h
        cases h
  · simp only [herror] at h
    cases h
    exact himbalance.placeIn

end Expr

end HashIf
