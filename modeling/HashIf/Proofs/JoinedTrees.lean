import HashIf.Proofs.Merging
import Mathlib.Data.List.Chain

/-!
# `HashIf.Proofs.JoinedTrees`: joining calls leaves no call to be joined

Calls are joined two items at a time, from left to right, in a list whose groups have been treated before.  A
pair that is joined takes two items out of the list, so the items in front of it and behind it get new
neighbours.  None of these are a pair again: the new item is a call, and a call is neither a name nor a group.
So one scan is enough, for lists at any depth and also for those that have become arguments.

Nothing is lost but brackets that say nothing.  A call that is written out again is its name and its argument in
brackets; this is what stood there, unless the argument was a list of several items, which then has brackets of
its own, or the argument of `defined` had no brackets.

## Contents
- `Unjoined`: trees of names, numbers, marks and groups.
- `CallPair`, `CallsJoined`, `Occurs`: lists without a call to be joined, at any depth.
- `mergeCalls_noCallPair`, `detectCalls_callsJoined`: one scan is enough.
- `detectCalls_of_callsJoined`: where there is nothing to be joined, nothing changes.
- `expand`, `Rebracketed`, `rebracketed_joined`: calls written out again.
- `detectCalls_joins_all`: no call is left, joining again changes nothing, and no item is lost.
-/

namespace HashIf.Expr

/-! ## Trees and their lists -/

/-- A tree as brackets leave it: names, numbers, unbound operators and groups of these. -/
inductive Unjoined : Expr → Prop where
  | var (n : String) (p : Option Int) : Unjoined (.var n p)
  | num (v : Number) (p : Option Int) : Unjoined (.num v p)
  | mark (op : Operator) (p : Option Int) : Unjoined (.mark op p)
  | group {items : List Expr} (p : Option Int) (h : ∀ x ∈ items, Unjoined x) : Unjoined (.group items p)

/-- Two neighbours that are a call: a name and a group, or `defined` and a name. -/
inductive CallPair : Expr → Expr → Prop where
  | brackets (n : String) (p : Option Int) (items : List Expr) (q : Option Int) :
      CallPair (.var n p) (.group items q)
  | defined (p : Option Int) (m : String) (q : Option Int) : CallPair (.var definedName p) (.var m q)

/-- The expression is the tree itself or stands in it, at any depth: as an item of a group, as the argument of
    a call or as an operand. -/
inductive Occurs (y : Expr) : Expr → Prop where
  | root : Occurs y y
  | item {items : List Expr} {p : Option Int} {x : Expr} (hx : x ∈ items) (h : Occurs y x) :
      Occurs y (.group items p)
  | argument {n : String} {a : Expr} {p : Option Int} (h : Occurs y a) : Occurs y (.call n a p)
  | operand {op : Operator} {a : Expr} {p : Option Int} (h : Occurs y a) : Occurs y (.unary op a p)
  | left {op : Operator} {l r : Expr} {p : Option Int} (h : Occurs y l) : Occurs y (.binary op l r p)
  | right {op : Operator} {l r : Expr} {p : Option Int} (h : Occurs y r) : Occurs y (.binary op l r p)

/-- No two neighbours of a list are a call. -/
def NoCallPair (items : List Expr) : Prop := items.IsChain fun x y => ¬ CallPair x y

/-- A tree with unbound operators in which all calls are joined. -/
inductive CallsJoined : Expr → Prop where
  | var (n : String) (p : Option Int) : CallsJoined (.var n p)
  | num (v : Number) (p : Option Int) : CallsJoined (.num v p)
  | mark (op : Operator) (p : Option Int) : CallsJoined (.mark op p)
  | emptyCall (n : String) (p : Option Int) : CallsJoined (.emptyCall n p)
  | call {a : Expr} (n : String) (p : Option Int) (h : CallsJoined a) : CallsJoined (.call n a p)
  | group {items : List Expr} (p : Option Int) (hpairs : NoCallPair items) (h : ∀ x ∈ items, CallsJoined x) :
      CallsJoined (.group items p)

/-- What stands in a tree with joined calls has joined calls itself. -/
theorem CallsJoined.of_occurs {x y : Expr} (h : CallsJoined x) (hy : Occurs y x) : CallsJoined y := by
  induction hy with
  | root => exact h
  | item hx _ ih =>
      cases h with
      | group p hpairs hitems => exact ih (hitems _ hx)
  | argument _ ih =>
      cases h with
      | call n p ha => exact ih ha
  | operand => cases h
  | left => cases h
  | right => cases h

/-! ## One scan is enough -/

/-- An item that is no call with its neighbour stays. -/
theorem mergeCalls_cons {x : Expr} {rest : List Expr} (h : ∀ y ∈ rest.head?, ¬ CallPair x y) :
    mergeCalls (x :: rest) = x :: mergeCalls rest := by
  rw [mergeCalls.eq_def]
  split
  · rename_i n p items q rest' heq
    obtain ⟨rfl, rfl⟩ := List.cons.inj heq
    exact absurd (CallPair.brackets n p items q) (h _ rfl)
  · rename_i n p m q rest' heq
    obtain ⟨rfl, rfl⟩ := List.cons.inj heq
    split
    · rename_i hn
      obtain rfl := eq_of_beq hn
      exact absurd (CallPair.defined p m q) (h _ rfl)
    · rfl
  · rename_i e rest' _ _ heq
    obtain ⟨rfl, rfl⟩ := List.cons.inj heq
    rfl
  · rename_i heq
    cases heq

/-- The first of a pair is a name and the second one a name or a group, so a call is neither. -/
theorem not_callPair_callOf (x : Expr) (n : String) (p : Option Int) (items : List Expr) (q : Option Int) :
    ¬ CallPair x (callOf n p items q) ∧ ¬ CallPair (callOf n p items q) x := by
  obtain ⟨-, hcall⟩ | ⟨a, -, hcall⟩ := callOf_cases n p items q
  · rw [hcall]
    exact ⟨nofun, nofun⟩
  · rw [hcall]
    exact ⟨nofun, nofun⟩

/-- What a scan puts first is what was first, or a call. -/
theorem mem_head?_of_mergeCalls {items : List Expr} {x y : Expr} (hy : y ∈ (mergeCalls items).head?)
    (hpair : CallPair x y) : y ∈ items.head? := by
  revert hy
  fun_cases mergeCalls items with
  | case1 n p inner q rest =>
      rintro ⟨⟩
      exact absurd hpair (not_callPair_callOf x n p inner q).1
  | case2 n p m q rest hn =>
      rintro ⟨⟩
      cases hpair
  | case3 n p m q rest hn => exact id
  | case4 e rest hgroup hvar => exact id
  | case5 => exact id

/-- **One scan leaves no pair**, although it changes who is next to whom. -/
theorem mergeCalls_noCallPair (items : List Expr) : NoCallPair (mergeCalls items) := by
  -- An item that stays was no call with its old neighbour, and its new one is the same or a call.
  have hstays : ∀ {x : Expr} {rest : List Expr}, (∀ y ∈ rest.head?, ¬ CallPair x y) →
      NoCallPair (mergeCalls rest) → NoCallPair (x :: mergeCalls rest) := by
    intro x rest hx hrest
    exact hrest.cons fun y hy hpair => hx y (mem_head?_of_mergeCalls hy hpair) hpair
  fun_induction mergeCalls items with
  | case1 n p inner q rest ih => exact ih.cons fun y _ => (not_callPair_callOf y n p inner q).2
  | case2 n p m q rest hn ih =>
      refine ih.cons fun y _ hpair => ?_
      cases hpair
  | case3 n p m q rest hn ih =>
      refine hstays (fun y hy hpair => ?_) ih
      cases hy
      cases hpair
      exact hn (beq_self_eq_true _)
  | case4 e rest hgroup hvar ih =>
      refine hstays (fun y hy hpair => ?_) ih
      obtain ⟨rest', rfl⟩ := List.head?_eq_some_iff.mp hy
      cases hpair with
      | brackets n p inner q => exact hgroup n p inner q rest' rfl rfl
      | defined p m q => exact hvar definedName p m q rest' rfl rfl
  | case5 => exact .nil

theorem mergeCalls_callsJoined {items : List Expr} (h : ∀ x ∈ items, CallsJoined x) :
    ∀ x ∈ mergeCalls items, CallsJoined x := by
  fun_induction mergeCalls items with
  | case1 n p inner q rest ih =>
      obtain ⟨-, h⟩ := List.forall_mem_cons.mp h
      obtain ⟨hgroup, hrest⟩ := List.forall_mem_cons.mp h
      refine List.forall_mem_cons.mpr ⟨?_, ih hrest⟩
      obtain ⟨-, hcall⟩ | ⟨a, ha, hcall⟩ := callOf_cases n p inner q
      · rw [hcall]
        exact .emptyCall n p
      · rw [hcall]
        refine .call n p ?_
        -- The argument is the group, or the only item of it.
        rcases ha with rfl | rfl
        · exact hgroup.of_occurs (.item List.mem_cons_self .root)
        · exact hgroup
  | case2 n p m q rest hn ih =>
      obtain ⟨-, h⟩ := List.forall_mem_cons.mp h
      obtain ⟨hm, hrest⟩ := List.forall_mem_cons.mp h
      exact List.forall_mem_cons.mpr ⟨.call n p hm, ih hrest⟩
  | case3 n p m q rest hn ih =>
      obtain ⟨hn, hrest⟩ := List.forall_mem_cons.mp h
      exact List.forall_mem_cons.mpr ⟨hn, ih hrest⟩
  | case4 e rest hgroup hvar ih =>
      obtain ⟨he, hrest⟩ := List.forall_mem_cons.mp h
      exact List.forall_mem_cons.mpr ⟨he, ih hrest⟩
  | case5 => exact h

theorem detectItems_eq_map (items : List Expr) : detectItems items = items.map detectCalls := by
  induction items with
  | nil => rfl
  | cons x xs ih => rw [detectItems, ih, List.map_cons]

/-- **All calls are joined**, those in arguments included. -/
theorem detectCalls_callsJoined {x : Expr} (h : Unjoined x) : CallsJoined (detectCalls x) := by
  induction h with
  | var n p => exact .var n p
  | num v p => exact .num v p
  | mark op p => exact .mark op p
  | group p h ih =>
      refine .group p (mergeCalls_noCallPair _) (mergeCalls_callsJoined ?_)
      rw [detectItems_eq_map]
      exact List.forall_mem_map.mpr ih

/-- A list without a call to be joined is left alone. -/
theorem mergeCalls_of_noCallPair {items : List Expr} (h : NoCallPair items) : mergeCalls items = items := by
  induction items with
  | nil => rfl
  | cons x rest ih =>
      obtain ⟨hx, hrest⟩ := List.isChain_cons.mp h
      rw [mergeCalls_cons hx, ih hrest]

/-- **Where all calls are joined, joining changes nothing.** -/
theorem detectCalls_of_callsJoined {x : Expr} (h : CallsJoined x) : detectCalls x = x := by
  induction h with
  | group p hpairs h ih =>
      have hitems := (List.map_congr_left ih).trans (List.map_id' _)
      rw [detectCalls, detectItems_eq_map, hitems, mergeCalls_of_noCallPair hpairs]
  | _ => rfl

/-! ## Calls written out again -/

mutual

/-- The items that an expression stands for: a call is its name with its argument between brackets behind
    it. -/
def expand : Expr → List Expr
  | .call n a p => [.var n p, .group (expand a) none]
  | .emptyCall n p => [.var n p, .group [] none]
  | .group items p => [.group (expandItems items) p]
  | e => [e]

/-- The items that a list stands for. -/
def expandItems : List Expr → List Expr
  | [] => []
  | e :: es => expand e ++ expandItems es

end

/-- The same items up to brackets behind names.  On the right, an argument of several items may have brackets of
    its own between those of the call, and the argument of `defined` has brackets also where it has none on
    the left.  Where brackets of a call were is not kept. -/
inductive Rebracketed : List Expr → List Expr → Prop where
  | nil : Rebracketed [] []
  | same (e : Expr) {xs ys : List Expr} (h : Rebracketed xs ys) : Rebracketed (e :: xs) (e :: ys)
  | group (p : Option Int) {es fs xs ys : List Expr} (hin : Rebracketed es fs) (h : Rebracketed xs ys) :
      Rebracketed (.group es p :: xs) (.group fs p :: ys)
  | call (n : String) (p q : Option Int) {es fs xs ys : List Expr} (hin : Rebracketed es fs)
      (h : Rebracketed xs ys) : Rebracketed (.var n p :: .group es q :: xs) (.var n p :: .group fs none :: ys)
  | doubled (n : String) (p q : Option Int) {es fs xs ys : List Expr} (hin : Rebracketed es fs)
      (h : Rebracketed xs ys) :
      Rebracketed (.var n p :: .group es q :: xs) (.var n p :: .group [.group fs q] none :: ys)
  | defined (p : Option Int) (m : String) (q : Option Int) {xs ys : List Expr} (h : Rebracketed xs ys) :
      Rebracketed (.var definedName p :: .var m q :: xs)
        (.var definedName p :: .group [.var m q] none :: ys)

/-- A name and a group are a call and are written as such. -/
theorem Rebracketed.callOf (n : String) (p q : Option Int) {es inner xs ys : List Expr}
    (hin : Rebracketed es (expandItems inner)) (h : Rebracketed xs ys) :
    Rebracketed (.var n p :: .group es q :: xs) (expand (callOf n p inner q) ++ ys) := by
  match inner, hin with
  | [], hin => exact .call n p q hin h
  | [e], hin =>
      rw [expandItems, expandItems, List.append_nil] at hin
      exact .call n p q hin h
  | e :: e' :: rest, hin => exact .doubled n p q hin h

/-- The items of a group are found again when the calls joined in it are written out. -/
def Recovered (x : Expr) : Prop := ∀ es p, x = .group es p → Rebracketed es (expandItems (joined es))

/-- An item that stays is written as it was, a group up to its items. -/
theorem Rebracketed.kept {x : Expr} (hx : Unjoined x) (hin : Recovered x) {xs ys : List Expr}
    (h : Rebracketed xs ys) : Rebracketed (x :: xs) (expand (detectCalls x) ++ ys) := by
  cases hx with
  | group p hitems => exact .group p (hin _ p rfl) h
  | _ => exact .same _ h

/-- A pair of treated items was a pair before. -/
theorem CallPair.of_detectCalls {x y : Expr} (h : CallPair (detectCalls x) (detectCalls y)) : CallPair x y := by
  generalize hx : detectCalls x = x' at h
  generalize hy : detectCalls y = y' at h
  cases h with
  | brackets n p items q =>
      obtain ⟨es, rfl, -⟩ := eq_group_of_detectCalls hy
      rw [eq_var_of_detectCalls hx]
      exact .brackets n p es q
  | defined p m q =>
      rw [eq_var_of_detectCalls hx, eq_var_of_detectCalls hy]
      exact .defined p m q

/-- An item that is no call with its neighbour is treated on its own. -/
theorem joined_cons_cons {x y : Expr} (h : ¬ CallPair x y) (ys : List Expr) :
    joined (x :: y :: ys) = detectCalls x :: joined (y :: ys) := by
  refine mergeCalls_cons fun z hz hpair => ?_
  cases hz
  exact h hpair.of_detectCalls

/-- The items of a list are found again if those of its groups are.  The cases are those of the scan: a pair that
    is joined, and an item that stays. -/
theorem rebracketed_joined {items : List Expr} (h : ∀ x ∈ items, Unjoined x) (hin : ∀ x ∈ items, Recovered x) :
    Rebracketed items (expandItems (joined items)) := by
  match items with
  | [] => exact .nil
  | [x] =>
      rw [joined_singleton]
      exact .kept (h x List.mem_cons_self) (hin x List.mem_cons_self) .nil
  | x :: y :: ys =>
      obtain ⟨hx, h'⟩ := List.forall_mem_cons.mp h
      obtain ⟨hinx, hin'⟩ := List.forall_mem_cons.mp hin
      by_cases hpair : CallPair x y
      · have hys : Rebracketed ys (expandItems (joined ys)) :=
          rebracketed_joined (List.forall_mem_cons.mp h').2 (List.forall_mem_cons.mp hin').2
        cases hpair with
        | brackets n p es q => exact .callOf n p q (hin' _ List.mem_cons_self es q rfl) hys
        | defined p m q => exact .defined p m q hys
      · rw [joined_cons_cons hpair, expandItems]
        exact .kept hx hinx (rebracketed_joined h' hin')

/-- **No item is lost**, at any depth. -/
theorem Unjoined.recovered {x : Expr} (h : Unjoined x) : Recovered x := by
  induction h with
  | group p h ih =>
      intro es q heq
      cases heq
      exact rebracketed_joined h ih
  | _ =>
      intro es q heq
      cases heq

/-- **Joining calls is complete and loses nothing**, for every tree of names, numbers, unbound operators and
    groups.  In no list of the result, wherever it stands, a name is directly followed by a group or `defined` by
    a name; joining calls again changes nothing; and with its calls written out the result is the tree
    again, up to brackets around the arguments of calls. -/
theorem detectCalls_joins_all {x : Expr} (hx : Unjoined x) :
    (∀ items p, Occurs (.group items p) (detectCalls x) → NoCallPair items)
      ∧ detectCalls (detectCalls x) = detectCalls x
      ∧ Rebracketed [x] (expand (detectCalls x)) := by
  have hjoined : CallsJoined (detectCalls x) := detectCalls_callsJoined hx
  refine ⟨fun items p hoccurs => ?_, detectCalls_of_callsJoined hjoined, ?_⟩
  · cases hjoined.of_occurs hoccurs with
    | group p hpairs h => exact hpairs
  · have hback := Rebracketed.kept hx hx.recovered .nil
    rwa [List.append_nil] at hback

/-- The tree of `defined defined (A) || X f (B C)`: the second `defined` is an argument, and `X` is followed by
    a name that is itself that of a call. -/
def crowdedNames : Expr :=
  .group [.var "defined" none, .var "defined" none, .group [.var "A" none] none, .mark .boolOr none,
    .var "X" none, .var "f" none, .group [.var "B" none, .var "C" none] none] none

/-- The same tree with its calls joined. -/
def crowdedCalls : Expr :=
  .group [.call "defined" (.var "defined" none) none, .group [.var "A" none] none, .mark .boolOr none,
    .var "X" none, .call "f" (.group [.var "B" none, .var "C" none] none) none] none

theorem detectCalls_joins_all_crowdedNames :
    Unjoined crowdedNames ∧ detectCalls crowdedNames = crowdedCalls
      ∧ NoCallPair [.var "B" none, .var "C" none]
      ∧ detectCalls crowdedCalls = crowdedCalls
      ∧ Rebracketed [crowdedNames] [.group [.var "defined" none, .group [.var "defined" none] none,
          .group [.var "A" none] none, .mark .boolOr none, .var "X" none, .var "f" none,
          .group [.group [.var "B" none, .var "C" none] none] none] none] := by
  have hunjoined : Unjoined crowdedNames := by
    refine .group none ?_
    have hnames : ∀ names : List String, ∀ x ∈ names.map (Expr.var · none), Unjoined x := by
      intro names x hx
      obtain ⟨n, -, rfl⟩ := List.mem_map.mp hx
      exact .var n none
    have hA : Unjoined (.group [.var "A" none] none) := .group none (hnames ["A"])
    have hBC : Unjoined (.group [.var "B" none, .var "C" none] none) := .group none (hnames ["B", "C"])
    simp only [List.forall_mem_cons]
    exact ⟨.var _ _, .var _ _, hA, .mark _ _, .var _ _, .var _ _, hBC, fun _ h => absurd h List.not_mem_nil⟩
  have hcalls : detectCalls crowdedNames = crowdedCalls := rfl
  obtain ⟨hpairs, hagain, hback⟩ := detectCalls_joins_all hunjoined
  rw [hcalls] at hpairs hagain hback
  have hargument : Occurs (.group [.var "B" none, .var "C" none] none) crowdedCalls := by
    refine .item (x := .call "f" (.group [.var "B" none, .var "C" none] none) none) ?_ (.argument .root)
    simp
  exact ⟨hunjoined, hcalls, hpairs _ none hargument, hagain, hback⟩

end HashIf.Expr
