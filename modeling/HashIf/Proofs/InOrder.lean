import HashIf.Proofs.Parsing
import HashIf.Proofs.Tokenization

/-!
# `HashIf.Proofs.InOrder`: the nodes of a tree are the tokens of its text

Brackets leave nothing in a tree, and every other token leaves one node.  Which node that is can be told from
its offset: in the order of the text the nodes are the tokens, none of them lost, none of them twice.

A tree alone does not tell on which side of its operand a unary operator was written, but its offset does.
The argument is an induction over the derivation of the tokens, in which each rule puts its token beside
those of its parts.

## Contents
- `Expr.nodes`, `Expr.inorder`: the nodes of a tree, and the same in the order of the text.
- `MadeFrom`: a node and the token that it was made from.
- `Derivation.inorder_tree`: the nodes of the tree of a derivation, in order, are its tokens.
- `parse_nodes_are_tokens`: the same for texts.
-/

namespace HashIf

/-! ## The nodes of a tree -/

/-- Both offsets are known, and the first is the smaller one. -/
def Precedes : Option Int → Option Int → Prop
  | some i, some j => i < j
  | _, _ => False

instance : DecidableRel Precedes
  | some i, some j => inferInstanceAs (Decidable (i < j))
  | none, _ => .isFalse id
  | some _, none => .isFalse id

theorem Precedes.asymm {p q : Option Int} (h : Precedes p q) : ¬ Precedes q p := by
  intro h'
  match p, q with
  | some i, some j => exact Int.lt_asymm h h'
  | none, _ => exact h
  | some _, none => exact h

/-- Offsets of tokens are compared as numbers. -/
theorem precedes_natCast {m n : Nat} (h : m < n) : Precedes (some (m : Int)) (some (n : Int)) :=
  Int.ofNat_lt.mpr h

namespace Expr

/-- The nodes of a tree, each with everything below it, the root first. -/
def nodes : Expr → List Expr
  | unary op e p => unary op e p :: e.nodes
  | binary op l r p => binary op l r p :: (l.nodes ++ r.nodes)
  | call n e p => call n e p :: e.nodes
  | e => [e]

/-- The nodes of a tree in the order of the text.  A unary operator stands in front of its operand if its
    offset is smaller than every offset there, and otherwise behind it. -/
def inorder : Expr → List Expr
  | unary op e p =>
      if ∀ x ∈ e.nodes, Precedes p x.pos then unary op e p :: e.inorder else e.inorder ++ [unary op e p]
  | binary op l r p => l.inorder ++ binary op l r p :: r.inorder
  | call n e p => call n e p :: e.inorder
  | e => [e]

/-- The root is a node. -/
theorem self_mem_nodes (e : Expr) : e ∈ e.nodes := by
  cases e <;> exact List.mem_cons_self

/-- The order of the text is an order of all nodes. -/
theorem inorder_perm_nodes (e : Expr) : e.inorder.Perm e.nodes := by
  fun_induction inorder e with
  | case1 op e p hfront ih => exact ih.cons _
  | case2 op e p hfront ih => exact (List.perm_append_singleton _ _).trans (ih.cons _)
  | case3 op l r p ihl ihr => exact List.perm_middle.trans ((ihl.append ihr).cons _)
  | case4 n e p ih => exact ih.cons _
  | case5 e hunary hbinary hcall =>
      cases e with
      | unary op e p => exact absurd rfl (hunary op e p)
      | binary op l r p => exact absurd rfl (hbinary op l r p)
      | call n e p => exact absurd rfl (hcall n e p)
      | _ => exact .refl _

theorem mem_inorder {e x : Expr} : x ∈ e.inorder ↔ x ∈ e.nodes := e.inorder_perm_nodes.mem_iff

end Expr

/-! ## Nodes and tokens -/

/-- The token leaves a node in the tree. -/
def Token.leavesNode : Token → Bool
  | .bracket _ _ => false
  | _ => true

/-- The node was made from the token: it has the offset of the token and says the same. -/
inductive MadeFrom : Expr → Token → Prop where
  | var (p : Nat) (s : String) : MadeFrom (.var s (some p)) (.name p s)
  | num (p n : Nat) (v : Number) : MadeFrom (.num v (some p)) (.number p n v)
  | unary (p : Nat) (op : Operator) (e : Expr) : MadeFrom (.unary op e (some p)) (.operator p op)
  | binary (p : Nat) (op : Operator) (l r : Expr) : MadeFrom (.binary op l r (some p)) (.operator p op)
  | emptyCall (p : Nat) (s : String) : MadeFrom (.emptyCall s (some p)) (.name p s)
  | call (p : Nat) (s : String) (e : Expr) : MadeFrom (.call s e (some p)) (.name p s)

theorem MadeFrom.pos_eq {e : Expr} {t : Token} (h : MadeFrom e t) : e.pos = some (t.pos : Int) := by
  cases h <;> rfl

/-- The tokens stand in the order of the text, each at an offset of its own. -/
def Increasing (ts : List Token) : Prop := ts.Pairwise fun t u => t.pos < u.pos

theorem Token.Tokenization.increasing {text : List Char} {n : Nat} {ts : List Token}
    (h : Token.Tokenization text n ts) : Increasing ts := by
  refine h.ordered.imp_of_mem fun {t u} ht _ hend => ?_
  have hpos := (h.denotes t ht).length_pos
  unfold Token.endPos at hend
  omega

/-- Nodes made from tokens, one from one, and in the same order. -/
def Aligned (es : List Expr) (ts : List Token) : Prop :=
  List.Forall₂ MadeFrom es (ts.filter Token.leavesNode)

namespace Aligned

variable {es fs : List Expr} {ts us : List Token}

theorem append (h : Aligned es ts) (h' : Aligned fs us) : Aligned (es ++ fs) (ts ++ us) := by
  unfold Aligned at h h' ⊢
  rw [List.filter_append]
  exact List.rel_append h h'

/-- Brackets around the tokens change nothing. -/
theorem brackets (h : Aligned es ts) (p q : Nat) :
    Aligned es (.bracket p true :: (ts ++ [.bracket q false])) := by
  have hnone : Aligned [] [.bracket q false] := .nil
  have happend := h.append hnone
  rw [List.append_nil] at happend
  exact happend

/-- Every node has a token. -/
theorem exists_token (h : Aligned es ts) {e : Expr} (he : e ∈ es) : ∃ t ∈ ts, MadeFrom e t := by
  obtain ⟨i, hi, rfl⟩ := List.mem_iff_getElem.mp he
  have hi' : i < (ts.filter Token.leavesNode).length := h.length_eq ▸ hi
  exact ⟨_, List.mem_of_mem_filter (List.getElem_mem hi'), h.get hi hi'⟩

/-- Nodes in the order of the text have increasing offsets. -/
theorem pairwise_pos (h : Aligned es ts) (hts : Increasing ts) :
    es.Pairwise fun x y => Precedes x.pos y.pos := by
  have hpos : es.map Expr.pos = (ts.filter Token.leavesNode).map fun t => some (t.pos : Int) := by
    rw [← List.forall₂_eq_eq_eq, List.forall₂_map_left_iff, List.forall₂_map_right_iff]
    exact h.imp fun _ _ hmade => hmade.pos_eq
  have hsorted : (es.map Expr.pos).Pairwise Precedes := by
    rw [hpos, List.pairwise_map]
    exact (hts.filter Token.leavesNode).imp precedes_natCast
  exact List.pairwise_map.mp hsorted

/-- An operator in front of the tokens of its operand has the smallest offset. -/
theorem before_operand {e : Expr} {t : Token} (h : Aligned e.inorder ts)
    (hts : Increasing (t :: ts)) : ∀ x ∈ e.nodes, Precedes (some (t.pos : Int)) x.pos := by
  intro x hx
  obtain ⟨u, hu, hmade⟩ := h.exists_token (Expr.mem_inorder.mpr hx)
  rw [hmade.pos_eq]
  exact precedes_natCast ((List.pairwise_cons.mp hts).1 u hu)

/-- An operator behind the tokens of its operand has the largest offset. -/
theorem behind_operand {e : Expr} {t : Token} (h : Aligned e.inorder ts)
    (hts : Increasing (ts ++ [t])) : ∀ x ∈ e.nodes, Precedes x.pos (some (t.pos : Int)) := by
  intro x hx
  obtain ⟨u, hu, hmade⟩ := h.exists_token (Expr.mem_inorder.mpr hx)
  rw [hmade.pos_eq]
  exact precedes_natCast ((List.pairwise_append.mp hts).2.2 u hu t List.mem_cons_self)

end Aligned

/-! ## The tree of a derivation -/

namespace Derivation

/-- **The nodes of the tree of a derivation, in the order of the text, are its tokens.** -/
theorem inorder_tree {k : Nat} (d : Derivation k) (hd : Increasing d.yield) :
    Aligned d.tree.inorder d.yield := by
  induction d with
  | number p n v => exact .cons (.num p n v) .nil
  | name p s => exact .cons (.var p s) .nil
  | brackets p d q ih =>
      have hinner := (List.pairwise_append.mp (List.pairwise_cons.mp hd).2).1
      exact (ih hinner).brackets p q
  | emptyCall p s q q' => exact .cons (.emptyCall p s) .nil
  | call p s q d q' ih =>
      have hrest := (List.pairwise_cons.mp hd).2
      have hinner := (List.pairwise_append.mp (List.pairwise_cons.mp hrest).2).1
      exact .cons (.call p s _) ((ih hinner).brackets q q')
  | defined p q s => exact .cons (.call p _ _) (.cons (.var q s) .nil)
  | prefixed p op hop d ih =>
      have hoperand := ih (List.pairwise_cons.mp hd).2
      have hfront : ∀ x ∈ d.tree.nodes, Precedes (some (p : Int)) x.pos := hoperand.before_operand hd
      simp only [tree, Expr.inorder, if_pos hfront]
      exact .cons (.unary p op _) hoperand
  | postfixed d p op hop ih =>
      have hoperand := ih (List.pairwise_append.mp hd).1
      -- The root of the operand has a smaller offset, so the operator does not stand in front.
      have hbehind : ¬ ∀ x ∈ d.tree.nodes, Precedes (some (p : Int)) x.pos := by
        intro hfront
        have hroot := d.tree.self_mem_nodes
        exact (hoperand.behind_operand hd _ hroot).asymm (hfront _ hroot)
      simp only [tree, Expr.inorder, if_neg hbehind]
      have hlast : Aligned [.unary op d.tree (some p)] [.operator p op] := .cons (.unary p op _) .nil
      exact hoperand.append hlast
  | tighter hk d ih => exact ih hd
  | join l p op hop hk r ihl ihr =>
      have hleft := ihl (List.pairwise_append.mp hd).1
      have hright := ihr (List.pairwise_cons.mp (List.pairwise_append.mp hd).2.1).2
      have hrest : Aligned (.binary op l.tree r.tree (some p) :: r.tree.inorder) (.operator p op :: r.yield) :=
        .cons (.binary p op _ _) hright
      exact hleft.append hrest

/-- **A unary operator stands on one side of its whole operand.** -/
theorem unary_aside {k : Nat} (d : Derivation k) (hd : Increasing d.yield) {op : Operator} {e : Expr}
    {p : Option Int} (h : .unary op e p ∈ d.tree.nodes) :
    (∀ x ∈ e.nodes, Precedes p x.pos) ∨ (∀ x ∈ e.nodes, Precedes x.pos p) := by
  induction d with
  | number | name | emptyCall => simp only [tree, Expr.nodes, List.mem_singleton, reduceCtorEq] at h
  | defined =>
      simp only [tree, Expr.nodes, List.mem_cons, List.not_mem_nil, reduceCtorEq, or_false] at h
  | brackets q d q' ih => exact ih (List.pairwise_append.mp (List.pairwise_cons.mp hd).2).1 h
  | call q s q' d q'' ih =>
      have hrest := (List.pairwise_cons.mp hd).2
      simp only [tree, Expr.nodes, List.mem_cons, reduceCtorEq, false_or] at h
      exact ih (List.pairwise_append.mp (List.pairwise_cons.mp hrest).2).1 h
  | prefixed q op' hop d ih =>
      have hoperand := (List.pairwise_cons.mp hd).2
      rcases List.mem_cons.mp h with hroot | hbelow
      · cases hroot
        exact .inl ((d.inorder_tree hoperand).before_operand hd)
      · exact ih hoperand hbelow
  | postfixed d q op' hop ih =>
      have hoperand := (List.pairwise_append.mp hd).1
      rcases List.mem_cons.mp h with hroot | hbelow
      · cases hroot
        exact .inr ((d.inorder_tree hoperand).behind_operand hd)
      · exact ih hoperand hbelow
  | tighter hk d ih => exact ih hd h
  | join l q op' hop hk r ihl ihr =>
      have hright := (List.pairwise_cons.mp (List.pairwise_append.mp hd).2.1).2
      simp only [tree, Expr.nodes, List.mem_cons, List.mem_append, reduceCtorEq, false_or] at h
      rcases h with hl | hr
      · exact ihl (List.pairwise_append.mp hd).1 hl
      · exact ihr hright hr

end Derivation

/-! ## The tree of a text -/

namespace Expr

/-- **The nodes of the tree of a text are its names, numbers and operators.**  The order of the text is an
    order of all nodes of the tree; in it, each node was made from the token in the same place among those
    that are no brackets, and the offsets increase.  Each unary operator stands in front of all of its
    operand or behind all of it. -/
theorem parse_nodes_are_tokens [CallStack] {text : String} {e : Expr} (h : parse text = .ok e) :
    ∃ ts, Token.lex text = .ok ts
      ∧ e.inorder.Perm e.nodes
      ∧ List.Forall₂ MadeFrom e.inorder (ts.filter Token.leavesNode)
      ∧ (e.inorder.Pairwise fun x y => Precedes x.pos y.pos)
      ∧ ∀ op operand p, .unary op operand p ∈ e.nodes →
          (∀ x ∈ operand.nodes, Precedes p x.pos) ∨ (∀ x ∈ operand.nodes, Precedes x.pos p) := by
  obtain ⟨d, hlex, -, rfl⟩ := parse_eq_ok_iff.mp h
  have hts : Increasing d.yield := (Token.lex_eq_ok_iff_tokenization.mp hlex).increasing
  have haligned := d.inorder_tree hts
  refine ⟨d.yield, hlex, d.tree.inorder_perm_nodes, haligned, haligned.pairwise_pos hts, ?_⟩
  intro op operand p hmem
  exact d.unary_aside hts hmem

/-- In `~(a)++ < f(-b)` one operator stands in front of brackets, one behind them, and one in a call. -/
theorem parse_nodes_are_tokens_sides :
    ∃ e ts, parse "~(a)++ < f(-b)" = .ok e ∧ Token.lex "~(a)++ < f(-b)" = .ok ts
      ∧ List.Forall₂ MadeFrom e.inorder (ts.filter Token.leavesNode)
      ∧ e.inorder.map pos = [0, 2, 4, 7, 9, 11, 12].map some := by
  have hparse : parse "~(a)++ < f(-b)" = .ok (.binary .lt
      (.unary .increment (.unary .bitNot (.var "a" (some 2)) (some 0)) (some 4))
      (.call "f" (.unary .minus (.var "b" (some 12)) (some 11)) (some 9)) (some 7)) := by
    cbv
  obtain ⟨ts, hlex, -, haligned, -⟩ := parse_nodes_are_tokens hparse
  exact ⟨_, ts, hparse, hlex, haligned, by decide⟩

end Expr

end HashIf
