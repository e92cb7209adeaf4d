import HashIf.Expr.Brackets
import HashIf.Proofs.Looseness

/-!
# `HashIf.Proofs.Bracketing`: what the matching of brackets computes

`Nested tokens items` says, without a stack, that the brackets of the tokens match and that the items
are what stands outside of them, one group for each pair.  The loop over the tokens is related to it
by an invariant of the stack: each frame holds what was read since its bracket was opened.

## Contents
- `Nested`, `Nested.placed`: tokens with matching brackets and their items.
- `nest_of_nested`: the loop reads such tokens into the innermost frame.
- `Opened`, `Opened.step`, `Opened.run`: the invariant of the stack.
- `ofTokens_eq_ok_iff`: the tokens are accepted exactly if their brackets match.
- `Nested.split_mark`: items apart from each other come from tokens apart from each other.
-/

namespace HashIf.Expr

/-! ## Matching brackets -/

/-- The brackets of the tokens match, and outside of them the tokens are the items. -/
inductive Nested : List Token → List Expr → Prop where
  | nil : Nested [] []
  | name {ts : List Token} {es : List Expr} (p : Nat) (s : String) (h : Nested ts es) :
      Nested (.name p s :: ts) (.var s (some p) :: es)
  | number {ts : List Token} {es : List Expr} (p n : Nat) (v : Number) (h : Nested ts es) :
      Nested (.number p n v :: ts) (.num v (some p) :: es)
  | operator {ts : List Token} {es : List Expr} (p : Nat) (op : Operator) (h : Nested ts es) :
      Nested (.operator p op :: ts) (.mark op (some p) :: es)
  | brackets {ts us : List Token} {es fs : List Expr} (p q : Nat) (hin : Nested ts es)
      (h : Nested us fs) :
      Nested (.bracket p true :: (ts ++ .bracket q false :: us)) (.group es (some p) :: fs)

namespace Nested

theorem append {ts us : List Token} {es fs : List Expr} (h : Nested ts es) (h' : Nested us fs) :
    Nested (ts ++ us) (es ++ fs) := by
  induction h with
  | nil => exact h'
  | name p s _ ih => exact name p s ih
  | number p n v _ ih => exact number p n v ih
  | operator p op _ ih => exact operator p op ih
  | brackets p q hin _ _ ih =>
      rw [List.cons_append, List.append_assoc, List.cons_append]
      exact brackets p q hin ih

theorem eq_nil {ts : List Token} (h : Nested ts []) : ts = [] := by
  cases h
  rfl

/-- The items have the offsets of the tokens. -/
theorem placed {P : Option Int → Prop} {ts : List Token} {es : List Expr} (h : Nested ts es)
    (hts : ∀ t ∈ ts, P (some (t.pos : Int))) : ∀ x ∈ es, Placed P x := by
  induction h with
  | nil =>
      intro x hx
      cases hx
  | name p s _ ih =>
      obtain ⟨ht, hts⟩ := List.forall_mem_cons.mp hts
      exact List.forall_mem_cons.mpr ⟨.var s ht, ih hts⟩
  | number p n v _ ih =>
      obtain ⟨ht, hts⟩ := List.forall_mem_cons.mp hts
      exact List.forall_mem_cons.mpr ⟨.num v ht, ih hts⟩
  | operator p op _ ih =>
      obtain ⟨ht, hts⟩ := List.forall_mem_cons.mp hts
      exact List.forall_mem_cons.mpr ⟨.mark op ht, ih hts⟩
  | brackets p q _ _ ihin ih =>
      obtain ⟨ht, hts⟩ := List.forall_mem_cons.mp hts
      obtain ⟨hin, hts⟩ := List.forall_mem_append.mp hts
      exact List.forall_mem_cons.mpr ⟨.group ht (ihin hin), ih (List.forall_mem_cons.mp hts).2⟩

/-- No operator is bound when the brackets are matched. -/
theorem unbound {ts : List Token} {es : List Expr} (h : Nested ts es) : ∀ x ∈ es, Unbound x :=
  fun x hx => (h.placed (P := fun _ => True) (fun _ _ => trivial) x hx).unbound

/-- **Items on both sides of a mark come from tokens on both sides of its operator.** -/
theorem split_mark {ts : List Token} {before after : List Expr} {op : Operator} {pos : Option Int}
    (h : Nested ts (before ++ .mark op pos :: after)) :
    ∃ (us : List Token) (p : Nat) (vs : List Token), ts = us ++ .operator p op :: vs
      ∧ pos = some (p : Int) ∧ Nested us before ∧ Nested vs after := by
  generalize hes : before ++ .mark op pos :: after = es at h
  induction h generalizing before with
  | nil => exact absurd hes (List.append_ne_nil_of_right_ne_nil _ (List.cons_ne_nil _ _))
  | name p s h ih =>
      cases before with
      | nil => cases hes
      | cons b bs =>
          obtain ⟨rfl, hrest⟩ := List.cons.inj hes
          obtain ⟨us, q, vs, rfl, hq, hus, hvs⟩ := ih hrest
          exact ⟨_ :: us, q, vs, rfl, hq, name p s hus, hvs⟩
  | number p n v h ih =>
      cases before with
      | nil => cases hes
      | cons b bs =>
          obtain ⟨rfl, hrest⟩ := List.cons.inj hes
          obtain ⟨us, q, vs, rfl, hq, hus, hvs⟩ := ih hrest
          exact ⟨_ :: us, q, vs, rfl, hq, number p n v hus, hvs⟩
  | operator p op' h ih =>
      cases before with
      | nil =>
          cases hes
          exact ⟨[], p, _, rfl, rfl, nil, h⟩
      | cons b bs =>
          obtain ⟨rfl, hrest⟩ := List.cons.inj hes
          obtain ⟨us, q, vs, rfl, hq, hus, hvs⟩ := ih hrest
          exact ⟨_ :: us, q, vs, rfl, hq, operator p op' hus, hvs⟩
  | @brackets ts₁ us₁ es₁ fs₁ p q hin h _ ih =>
      cases before with
      | nil => cases hes
      | cons b bs =>
          obtain ⟨rfl, hrest⟩ := List.cons.inj hes
          obtain ⟨us, q', vs, rfl, hq, hus, hvs⟩ := ih hrest
          refine ⟨.bracket p true :: (ts₁ ++ .bracket q false :: us), q', vs, ?_, hq,
            brackets p q hin hus, hvs⟩
          rw [List.cons_append, List.append_assoc, List.cons_append]

end Nested

/-! ## The loop over the tokens -/

/-- **Matched tokens are read into the innermost frame**, whatever stands around and behind them. -/
theorem nest_of_nested {ts : List Token} {es : List Expr} (h : Nested ts es) (frame : Frame)
    (outer : List Frame) (rest : List Token) :
    nest frame outer (ts ++ rest) = nest ⟨frame.pos, es.reverse ++ frame.items⟩ outer rest := by
  induction h generalizing frame outer rest with
  | nil => rfl
  | name p s _ ih =>
      rw [List.cons_append, nest, ih, List.reverse_cons, List.append_assoc]
      rfl
  | number p n v _ ih =>
      rw [List.cons_append, nest, ih, List.reverse_cons, List.append_assoc]
      rfl
  | operator p op _ ih =>
      rw [List.cons_append, nest, ih, List.reverse_cons, List.append_assoc]
      rfl
  | @brackets ts us es fs p q _ _ ihin ih =>
      -- The tokens inside go into a frame of their own, which the closing bracket turns into a group.
      rw [List.cons_append, nest, List.append_assoc, ihin, List.cons_append, nest, ih,
        List.reverse_cons, List.append_assoc]
      simp only [Frame.push, Frame.close, List.append_nil, List.reverse_reverse]
      rfl

/-- The tokens read so far when `frame` is the innermost frame and `outer` are those around it: each
    frame holds the items since its bracket was opened. -/
inductive Opened : List Token → Frame → List Frame → Prop where
  | start {ts : List Token} {es : List Expr} (h : Nested ts es) : Opened ts ⟨0, es.reverse⟩ []
  | bracket {ts us : List Token} {es : List Expr} {frame : Frame} {outer : List Frame} (p : Nat)
      (hout : Opened ts frame outer) (h : Nested us es) :
      Opened (ts ++ .bracket p true :: us) ⟨p, es.reverse⟩ (frame :: outer)

/-- More matched tokens go into the innermost frame. -/
theorem Opened.append {ts us : List Token} {es : List Expr} {frame : Frame} {outer : List Frame}
    (h : Opened ts frame outer) (h' : Nested us es) :
    Opened (ts ++ us) ⟨frame.pos, es.reverse ++ frame.items⟩ outer := by
  cases h with
  | start h =>
      rw [← List.reverse_append]
      exact .start (h.append h')
  | bracket p hout h =>
      rw [List.append_assoc, List.cons_append, ← List.reverse_append]
      exact .bracket p hout (h.append h')

/-- A closing bracket turns the innermost frame into a group of the next. -/
theorem Opened.close {ts : List Token} {frame up : Frame} {outer : List Frame} (q : Nat)
    (h : Opened ts frame (up :: outer)) :
    Opened (ts ++ [.bracket q false]) (up.push frame.close) outer := by
  cases h with
  | bracket p hout h =>
      have hgroup := hout.append (Nested.brackets p q h .nil)
      rw [List.append_assoc, List.cons_append]
      simp only [Frame.push, Frame.close, List.reverse_reverse]
      exact hgroup

/-- **The loop keeps the invariant.** -/
theorem Opened.run {us ts : List Token} {frame frame' : Frame} {outer outer' : List Frame}
    (h : Opened ts frame outer) (hrun : nest frame outer us = .ok (frame', outer')) :
    Opened (ts ++ us) frame' outer' := by
  induction us generalizing ts frame outer with
  | nil =>
      cases hrun
      rw [List.append_nil]
      exact h
  | cons t us ih =>
      rw [List.append_cons]
      match t with
      | .name p s => exact ih (h.append (.name p s .nil)) hrun
      | .number p n v => exact ih (h.append (.number p n v .nil)) hrun
      | .operator p op => exact ih (h.append (.operator p op .nil)) hrun
      | .bracket p true => exact ih (.bracket p h .nil) hrun
      | .bracket p false =>
          cases outer with
          | nil => cases hrun
          | cons up outer => exact ih (h.close p) hrun

/-- **The tokens are accepted exactly if their brackets match.** -/
theorem ofTokens_eq_ok_iff {tokens : List Token} {e : Expr} :
    ofTokens tokens = .ok e ↔ ∃ es, Nested tokens es ∧ e = ofItems es := by
  constructor
  · intro h
    unfold ofTokens at h
    split at h
    · cases h
    · rename_i frame hrun
      cases h
      have hopen := Opened.run (.start .nil) hrun
      rw [List.nil_append] at hopen
      cases hopen with
      | start hn => exact ⟨_, hn, by rw [List.reverse_reverse]⟩
    · cases h
  · rintro ⟨es, hn, rfl⟩
    have hrun := nest_of_nested hn ⟨0, []⟩ [] []
    rw [List.append_nil, List.append_nil, nest] at hrun
    unfold ofTokens
    rw [hrun]
    simp only [List.reverse_reverse]

end HashIf.Expr
