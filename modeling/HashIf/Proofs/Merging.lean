import HashIf.Expr.Calls
import HashIf.Proofs.Binding

/-!
# `HashIf.Proofs.Merging`: what the joining of calls does to a list of items

Joining a name with the argument behind it never reaches across an operator.  So the joined list can
be cut at a mark wherever the list can, and the other way round; and where the joined list is a
single item, the list was that item or a name with its argument.

## Contents
- `joined`: the items of a group after all calls in it are joined.
- `joined_append_mark`, `joined_eq_append_mark`: cutting at a mark, in both directions.
- `joined_eq_singleton`: the lists that are joined to a single item.
- `joined_placed`, `joined_unbound`: joining binds no operator, and offsets stay.
- `Binds.callOf`: a call is an operand if its items bind.
-/

namespace HashIf.Expr

/-- The items of a group after all calls in it and below it are joined. -/
def joined (items : List Expr) : List Expr := mergeCalls (detectItems items)

theorem detectItems_append (xs ys : List Expr) :
    detectItems (xs ++ ys) = detectItems xs ++ detectItems ys := by
  induction xs with
  | nil => rfl
  | cons x xs ih => rw [List.cons_append, detectItems, ih, detectItems, List.cons_append]

/-! ## Cutting at a mark -/

theorem mergeCalls_append_mark (xs ys : List Expr) (op : Operator) (p : Option Int) :
    mergeCalls (xs ++ .mark op p :: ys) = mergeCalls xs ++ .mark op p :: mergeCalls ys := by
  fun_induction mergeCalls xs with
  | case1 n p items q rest ih =>
      rw [List.cons_append, List.cons_append, mergeCalls, ih, List.cons_append]
  | case2 n p m q rest hn ih =>
      rw [List.cons_append, List.cons_append, mergeCalls, if_pos hn, ih, List.cons_append]
  | case3 n p m q rest hn ih =>
      rw [List.cons_append, List.cons_append, mergeCalls, if_neg hn, ← List.cons_append, ih,
        List.cons_append]
  | case4 e rest hgroup hvar ih =>
      -- What follows `e` is the same with and without the mark, unless `e` is the last item.
      rw [List.cons_append, mergeCalls, ih, List.cons_append]
      · intro n p items q ys' he hys
        cases rest with
        | nil => cases hys
        | cons r rest =>
            obtain ⟨rfl, -⟩ := List.cons.inj hys
            exact hgroup n p items q rest he rfl
      · intro n p m q ys' he hys
        cases rest with
        | nil => cases hys
        | cons r rest =>
            obtain ⟨rfl, -⟩ := List.cons.inj hys
            exact hvar n p m q rest he rfl
  | case5 =>
      rw [List.nil_append, mergeCalls]
      · rfl
      · intro n p items q ys' he
        cases he
      · intro n p m q ys' he
        cases he

/-- A mark in the joined list stands in the list: a call is not a mark. -/
theorem mergeCalls_eq_append_mark {items before after : List Expr} {op : Operator}
    {p : Option Int} (h : mergeCalls items = before ++ .mark op p :: after) :
    ∃ xs ys, items = xs ++ .mark op p :: ys ∧ mergeCalls xs = before ∧ mergeCalls ys = after := by
  fun_induction mergeCalls items generalizing before with
  | case1 n p' items q rest ih =>
      cases before with
      | nil =>
          obtain ⟨hcall, -⟩ := List.cons.inj h
          unfold callOf at hcall
          split at hcall <;> cases hcall
      | cons b bs =>
          obtain ⟨rfl, hrest⟩ := List.cons.inj h
          obtain ⟨xs, ys, rfl, hxs, hys⟩ := ih hrest
          refine ⟨.var n p' :: .group items q :: xs, ys, rfl, ?_, hys⟩
          rw [mergeCalls, hxs]
  | case2 n p' m q rest hn ih =>
      cases before with
      | nil => cases h
      | cons b bs =>
          obtain ⟨rfl, hrest⟩ := List.cons.inj h
          obtain ⟨xs, ys, rfl, hxs, hys⟩ := ih hrest
          refine ⟨.var n p' :: .var m q :: xs, ys, rfl, ?_, hys⟩
          rw [mergeCalls, if_pos hn, hxs]
  | case3 n p' m q rest hn ih =>
      cases before with
      | nil => cases h
      | cons b bs =>
          obtain ⟨rfl, hrest⟩ := List.cons.inj h
          obtain ⟨xs, ys, heq, hxs, hys⟩ := ih hrest
          refine ⟨.var n p' :: xs, ys, by rw [heq, List.cons_append], ?_, hys⟩
          -- The mark is not the second name, so that name is still there in front of it.
          cases xs with
          | nil => cases heq
          | cons x xs =>
              obtain ⟨rfl, -⟩ := List.cons.inj heq
              rw [mergeCalls, if_neg hn, hxs]
  | case4 e rest hgroup hvar ih =>
      cases before with
      | nil =>
          obtain ⟨rfl, rfl⟩ := List.cons.inj h
          exact ⟨[], rest, rfl, by rw [mergeCalls], rfl⟩
      | cons b bs =>
          obtain ⟨rfl, hrest⟩ := List.cons.inj h
          obtain ⟨xs, ys, rfl, hxs, hys⟩ := ih hrest
          refine ⟨e :: xs, ys, rfl, ?_, hys⟩
          rw [mergeCalls, hxs]
          · intro n p items q xs' he hx
            exact hgroup n p items q (xs' ++ _) he (by rw [hx]; rfl)
          · intro n p m q xs' he hx
            exact hvar n p m q (xs' ++ _) he (by rw [hx]; rfl)
  | case5 => exact absurd h.symm (List.append_ne_nil_of_right_ne_nil _ (List.cons_ne_nil _ _))

/-- Joining calls leaves the marks of a list in place. -/
theorem detectItems_eq_append_mark {items before after : List Expr} {op : Operator}
    {p : Option Int} (h : detectItems items = before ++ .mark op p :: after) :
    ∃ xs ys, items = xs ++ .mark op p :: ys ∧ detectItems xs = before ∧ detectItems ys = after := by
  induction items generalizing before with
  | nil => exact absurd h.symm (List.append_ne_nil_of_right_ne_nil _ (List.cons_ne_nil _ _))
  | cons x xs ih =>
      cases before with
      | nil =>
          obtain ⟨hx, hrest⟩ := List.cons.inj h
          cases x with
          | mark op' p' =>
              cases hx
              exact ⟨[], xs, rfl, rfl, hrest⟩
          | _ => cases hx
      | cons b bs =>
          obtain ⟨rfl, hrest⟩ := List.cons.inj h
          obtain ⟨xs', ys, rfl, hxs, hys⟩ := ih hrest
          exact ⟨x :: xs', ys, rfl, by rw [detectItems, hxs], hys⟩

/-- **Calls on both sides of a mark are joined apart from each other.** -/
theorem joined_append_mark (xs ys : List Expr) (op : Operator) (p : Option Int) :
    joined (xs ++ .mark op p :: ys) = joined xs ++ .mark op p :: joined ys := by
  unfold joined
  rw [detectItems_append, detectItems, detectCalls, mergeCalls_append_mark]
  intro items q h
  cases h

/-- **A mark of the joined list cuts the list into the parts that were joined.** -/
theorem joined_eq_append_mark {items before after : List Expr} {op : Operator} {p : Option Int}
    (h : joined items = before ++ .mark op p :: after) :
    ∃ xs ys, items = xs ++ .mark op p :: ys ∧ joined xs = before ∧ joined ys = after := by
  obtain ⟨xs', ys', hitems, hxs, hys⟩ := mergeCalls_eq_append_mark h
  obtain ⟨xs, ys, rfl, rfl, rfl⟩ := detectItems_eq_append_mark hitems
  exact ⟨xs, ys, rfl, hxs, hys⟩

/-! ## Single items -/

theorem mergeCalls_eq_nil {items : List Expr} (h : mergeCalls items = []) : items = [] := by
  fun_induction mergeCalls items with
  | case5 => rfl
  | _ => cases h

theorem mergeCalls_singleton (x : Expr) : mergeCalls [x] = [x] := by
  rw [mergeCalls, mergeCalls]
  · intro n p items q rest _ h
    cases h
  · intro n p m q rest _ h
    cases h

theorem mergeCalls_eq_singleton {items : List Expr} {x : Expr} (h : mergeCalls items = [x]) :
    items = [x]
      ∨ (∃ n p inner q, items = [.var n p, .group inner q] ∧ x = callOf n p inner q)
      ∨ ∃ p m q, items = [.var definedName p, .var m q] ∧ x = .call definedName (.var m q) p := by
  fun_induction mergeCalls items with
  | case1 n p inner q rest _ =>
      obtain ⟨hx, hrest⟩ := List.cons.inj h
      rw [mergeCalls_eq_nil hrest]
      exact .inr (.inl ⟨n, p, inner, q, rfl, hx.symm⟩)
  | case2 n p m q rest hn _ =>
      obtain ⟨hx, hrest⟩ := List.cons.inj h
      rw [mergeCalls_eq_nil hrest]
      obtain rfl := eq_of_beq hn
      exact .inr (.inr ⟨p, m, q, rfl, hx.symm⟩)
  | case3 n p m q rest _ _ => cases mergeCalls_eq_nil (List.cons.inj h).2
  | case4 e rest _ _ _ =>
      obtain ⟨rfl, hrest⟩ := List.cons.inj h
      rw [mergeCalls_eq_nil hrest]
      exact .inl rfl
  | case5 => cases h

theorem detectItems_eq_nil {items : List Expr} (h : detectItems items = []) : items = [] := by
  cases items with
  | nil => rfl
  | cons x xs => cases h

theorem detectItems_eq_cons {items rest : List Expr} {x : Expr} (h : detectItems items = x :: rest) :
    ∃ y ys, items = y :: ys ∧ detectCalls y = x ∧ detectItems ys = rest := by
  cases items with
  | nil => cases h
  | cons y ys =>
      obtain ⟨hy, hys⟩ := List.cons.inj h
      exact ⟨y, ys, rfl, hy, hys⟩

theorem detectItems_eq_pair {items : List Expr} {a b : Expr} (h : detectItems items = [a, b]) :
    ∃ y z, items = [y, z] ∧ detectCalls y = a ∧ detectCalls z = b := by
  obtain ⟨y, ys, rfl, hy, hys⟩ := detectItems_eq_cons h
  obtain ⟨z, zs, rfl, hz, hzs⟩ := detectItems_eq_cons hys
  rw [detectItems_eq_nil hzs]
  exact ⟨y, z, rfl, hy, hz⟩

theorem joined_eq_nil {items : List Expr} (h : joined items = []) : items = [] :=
  detectItems_eq_nil (mergeCalls_eq_nil h)

theorem joined_singleton (x : Expr) : joined [x] = [detectCalls x] :=
  mergeCalls_singleton (detectCalls x)

/-- A name that nothing follows is found again as it was. -/
theorem eq_var_of_detectCalls {x : Expr} {n : String} {p : Option Int}
    (h : detectCalls x = .var n p) : x = .var n p := by
  cases x with
  | group => cases h
  | _ => exact h

/-- A group is found again with its calls joined. -/
theorem eq_group_of_detectCalls {x : Expr} {inner : List Expr} {q : Option Int}
    (h : detectCalls x = .group inner q) : ∃ items, x = .group items q ∧ joined items = inner := by
  cases x with
  | group items q' =>
      cases h
      exact ⟨items, rfl, rfl⟩
  | _ => cases h

/-- A name with brackets behind it is a call, with or without an argument. -/
theorem callOf_cases (n : String) (p : Option Int) (items : List Expr) (q : Option Int) :
    (items = [] ∧ callOf n p items q = .emptyCall n p)
      ∨ ∃ a, (items = [a] ∨ a = .group items q) ∧ callOf n p items q = .call n a p := by
  match items with
  | [] => exact .inl ⟨rfl, rfl⟩
  | [x] => exact .inr ⟨x, .inl rfl, rfl⟩
  | x :: y :: rest => exact .inr ⟨_, .inr rfl, rfl⟩

/-- **A list that is joined to a single item** is an item, a name with its brackets, or `defined` with a
    name. -/
theorem joined_eq_singleton {items : List Expr} {x : Expr} (h : joined items = [x]) :
    (∃ y, items = [y] ∧ detectCalls y = x)
      ∨ (∃ n p q, items = [.var n p, .group [] q] ∧ x = .emptyCall n p)
      ∨ (∃ n p inner q a, items = [.var n p, .group inner q]
          ∧ (joined inner = [a] ∨ a = .group (joined inner) q) ∧ x = .call n a p)
      ∨ ∃ p m q, items = [.var definedName p, .var m q] ∧ x = .call definedName (.var m q) p := by
  rcases mergeCalls_eq_singleton h with hone | ⟨n, p, inner, q, htwo, rfl⟩ | ⟨p, m, q, htwo, rfl⟩
  · obtain ⟨y, rest, rfl, hy, hrest⟩ := detectItems_eq_cons hone
    rw [detectItems_eq_nil hrest]
    exact .inl ⟨y, rfl, hy⟩
  · obtain ⟨y, z, rfl, hy, hz⟩ := detectItems_eq_pair htwo
    obtain ⟨items', rfl, rfl⟩ := eq_group_of_detectCalls hz
    rw [eq_var_of_detectCalls hy]
    obtain ⟨hnil, hcall⟩ | ⟨a, ha, hcall⟩ := callOf_cases n p (joined items') q
    · obtain rfl := joined_eq_nil hnil
      exact .inr (.inl ⟨n, p, q, rfl, hcall⟩)
    · exact .inr (.inr (.inl ⟨n, p, items', q, a, rfl, ha, hcall⟩))
  · obtain ⟨y, z, rfl, hy, hz⟩ := detectItems_eq_pair htwo
    rw [eq_var_of_detectCalls hy, eq_var_of_detectCalls hz]
    exact .inr (.inr (.inr ⟨p, m, q, rfl, rfl⟩))

/-! ## Joining binds nothing -/

section

variable {P : Option Int → Prop}

theorem callOf_placed {n : String} {p q : Option Int} {items : List Expr} (hp : P p) (hq : P q)
    (h : ∀ x ∈ items, Placed P x) : Placed P (callOf n p items q) := by
  match items with
  | [] => exact .emptyCall n hp
  | [x] => exact .call n hp (h x List.mem_cons_self)
  | x :: y :: rest => exact .call n hp (.group hq h)

theorem mergeCalls_placed {items : List Expr} (h : ∀ x ∈ items, Placed P x) :
    ∀ x ∈ mergeCalls items, Placed P x := by
  fun_induction mergeCalls items with
  | case1 n p inner q rest ih =>
      obtain ⟨hvar, hrest⟩ := List.forall_mem_cons.mp h
      obtain ⟨hgroup, hrest⟩ := List.forall_mem_cons.mp hrest
      cases hgroup with
      | group hq hinner => exact List.forall_mem_cons.mpr ⟨callOf_placed hvar.pos hq hinner, ih hrest⟩
  | case2 n p m q rest hn ih =>
      obtain ⟨hvar, hrest⟩ := List.forall_mem_cons.mp h
      obtain ⟨harg, hrest⟩ := List.forall_mem_cons.mp hrest
      exact List.forall_mem_cons.mpr ⟨.call n hvar.pos harg, ih hrest⟩
  | case3 n p m q rest _ ih =>
      obtain ⟨hvar, hrest⟩ := List.forall_mem_cons.mp h
      exact List.forall_mem_cons.mpr ⟨hvar, ih hrest⟩
  | case4 e rest _ _ ih =>
      obtain ⟨he, hrest⟩ := List.forall_mem_cons.mp h
      exact List.forall_mem_cons.mpr ⟨he, ih hrest⟩
  | case5 => exact h

theorem detectItems_placed_of {items : List Expr}
    (h : ∀ x ∈ items, Placed P (detectCalls x)) : ∀ x ∈ detectItems items, Placed P x := by
  induction items with
  | nil =>
      intro x hx
      cases hx
  | cons x xs ih =>
      obtain ⟨hx, hxs⟩ := List.forall_mem_cons.mp h
      exact List.forall_mem_cons.mpr ⟨hx, ih hxs⟩

/-- Joining calls binds no operator, and every node that is left has an offset it had before. -/
theorem detectCalls_placed {x : Expr} (h : Placed P x) : Placed P (detectCalls x) := by
  induction h with
  | group hp _ ih => exact .group hp (mergeCalls_placed (detectItems_placed_of ih))
  | var n hp => exact .var n hp
  | num v hp => exact .num v hp
  | mark op hp => exact .mark op hp
  | emptyCall n hp => exact .emptyCall n hp
  | call n hp h _ => exact .call n hp h

theorem joined_placed {items : List Expr} (h : ∀ x ∈ items, Placed P x) :
    ∀ x ∈ joined items, Placed P x :=
  mergeCalls_placed (detectItems_placed_of fun x hx => detectCalls_placed (h x hx))

end

theorem detectCalls_unbound {x : Expr} (h : Unbound x) : Unbound (detectCalls x) :=
  (detectCalls_placed h.placed).unbound

/-- Joining the calls of a list binds no operator. -/
theorem joined_unbound {items : List Expr} (h : ∀ x ∈ items, Unbound x) :
    ∀ x ∈ joined items, Unbound x :=
  fun x hx => (joined_placed (fun y hy => (h y hy).placed) x hx).unbound

/-! ## Calls as operands -/

/-- A single item that binds at any level is an operand. -/
theorem Binds.of_singleton {k : Nat} {x e : Expr} (h : Binds k [x] e) : Binds 12 [x] e := by
  generalize hitems : [x] = items at h
  induction h with
  | prefixed => cases hitems
  | @postfixed _ items _ _ _ h _ =>
      cases items with
      | nil => exact absurd rfl h.ne_nil
      | cons y ys => exact absurd (List.cons.inj hitems).2.symm (by simp)
  | tighter _ _ ih => exact ih hitems
  | @join _ _ ls rs _ _ _ _ _ hl hr _ _ =>
      cases ls with
      | nil => exact absurd rfl hl.ne_nil
      | cons y ys => exact absurd (List.cons.inj hitems).2.symm (by simp)
  | var n p => exact .var n p
  | num v p => exact .num v p
  | emptyCall n p => exact .emptyCall n p
  | call n p h _ => exact .call n p h
  | group p h _ => exact .group p h

/-- **A call is an operand if its items bind**, whether they are kept as a group or not. -/
theorem Binds.callOf {items : List Expr} {e : Expr} (n : String) (p q : Option Int)
    (h : Binds 1 items e) : Binds 12 [callOf n p items q] (.call n e p) := by
  match items with
  | [] => exact absurd rfl h.ne_nil
  | [x] => exact .call n p h.of_singleton
  | x :: y :: rest => exact .call n p (.group q h)

end HashIf.Expr
