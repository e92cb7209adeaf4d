import HashIf.Proofs.Phrases
import HashIf.Proofs.ResolvedTrees

/-!
# `HashIf.Proofs.TreeText`: the bracketed text of a tree is read as the tree

The text of a tree puts every operand into brackets, so that precedence never decides.  It is parsed as
the tree it was written for, for every operator: a sign is unary where it stands in front of an operand
and binary between blanks, brackets behind an operator are never those of a call, and an operator that
stood behind its operand comes back in front of it.  Since no two operators meet without brackets between
them, four frames for each pair of nested brackets are enough.

## Contents
- `text_unary`, `text_binary`, `text_call`: the characters of a text.
- `Cost.Bracketed`: the costs of a text in which brackets part all operators.
- `phrase_text`: the text of a well-formed tree is a phrase for it.
- `parse_text_wellFormed`: the trees of conditions, and reading their texts.
-/

namespace HashIf

/-! ## Costs of a text -/

/-- Every pair of brackets costs four frames at most. -/
def Cost.Bracketed (c : Cost) : Prop := c.binds ≤ 4 * c.nesting + 2

namespace Cost.Bracketed

variable {c c' : Cost}

/-- An operator in front of brackets. -/
theorem unary (h : c.Bracketed) : c.brackets.unary.Bracketed := by
  unfold Bracketed at h
  show c.binds + 2 + 2 ≤ 4 * (c.nesting + 1) + 2
  omega

/-- An operator between brackets. -/
theorem join (k : Nat) (h : c.Bracketed) (h' : c'.Bracketed) :
    (Cost.join k c.brackets c'.brackets).Bracketed := by
  unfold Bracketed at h h'
  show max (c.binds + 2 + 2) (c'.binds + 2 + 2) ≤ 4 * max (c.nesting + 1) (c'.nesting + 1) + 2
  omega

theorem call (h : c.Bracketed) : c.call.Bracketed := by
  unfold Bracketed at h
  have hsingle := c.singleBinds_le
  show c.singleBinds + 1 ≤ 4 * (c.nesting + 1) + 2
  omega

end Cost.Bracketed

/-- Four frames for each pair of brackets, and four more, are enough if brackets part all operators. -/
theorem Derivation.frames_le_of_bracketed {d : Derivation 1} (h : d.cost.Bracketed) :
    d.frames ≤ 4 * d.cost.nesting + 4 := by
  have hjoins := d.covered.joins_le
  have hframes := d.cost.frames_le
  unfold Cost.Bracketed at h
  rw [frames]
  omega

namespace Expr

open Token

/-! ## Characters of a text -/

theorem text_unary (op : Operator) (e : Expr) (p : Option Int) :
    (unary op e p).text.toList = op.symbolChars ++ '(' :: (e.text.toList ++ [')']) := by
  simp only [text, Operator.symbol, String.toList_append, String.toList_ofList, List.append_assoc]
  rfl

theorem text_binary (op : Operator) (l r : Expr) (p : Option Int) :
    (binary op l r p).text.toList
      = '(' :: (l.text.toList ++ [')'])
        ++ ' ' :: (op.symbolChars ++ ' ' :: '(' :: (r.text.toList ++ [')'])) := by
  simp only [text, Operator.symbol, String.toList_append, String.toList_ofList, List.append_assoc,
    List.cons_append]
  rfl

theorem text_call (s : String) (e : Expr) (p : Option Int) :
    (call s e p).text.toList = s.toList ++ '(' :: (e.text.toList ++ [')']) := by
  simp only [text, String.toList_append, List.append_assoc]
  rfl

/-! ## Reading a text -/

/-- **The text of a well-formed tree is a phrase for it.**  The induction is on the tree; every operand
    stands in brackets, so it is enough that it is a phrase at the loosest level. -/
theorem phrase_text {e : Expr} (h : e.WellFormed) :
    ∃ κ : Cost, κ.Bracketed ∧ Phrase 1 e.text.toList κ (fun t => t.unplaced = e.unplaced) := by
  obtain ⟨hgenuine, hbound⟩ := h
  induction e with
  | var s p =>
      have hname := (Phrase.name hgenuine).lower (show 1 ≤ 12 by decide) (le_refl 12)
      refine ⟨.atom, Nat.le_refl 2, ?_⟩
      rw [text]
      apply hname.imp
      rintro d ⟨q, hd⟩
      rw [hd, unplaced, unplaced]
  | num v p =>
      have hnumber := (Phrase.number hgenuine).lower (show 1 ≤ 12 by decide) (le_refl 12)
      refine ⟨.atom, Nat.le_refl 2, ?_⟩
      rw [text]
      apply hnumber.imp
      rintro d ⟨q, hd⟩
      rw [hd, unplaced, unplaced]
  | emptyCall s p =>
      have hcall := (Phrase.emptyCall hgenuine).lower (show 1 ≤ 12 by decide) (le_refl 12)
      refine ⟨.emptyCall, show 2 ≤ 6 by decide, ?_⟩
      rw [text, String.toList_append]
      apply hcall.imp
      rintro d ⟨q, hd⟩
      rw [hd, unplaced, unplaced]
  | unary op e p ih =>
      obtain ⟨hop, he⟩ := hbound
      obtain ⟨κ, hκ, hphrase⟩ := ih hgenuine he
      have hpair : ∀ a, op.symbolChars = [a] →
          ∀ c ∈ ('(' :: (e.text.toList ++ [')'])).head?, pairOperator? a c = none := by
        intro a _ c hc
        cases hc
        exact pairOperator?_eq_none a (by decide)
      have hunary := (Phrase.prefixed hop hphrase.brackets hpair).lower (show 1 ≤ 11 by decide) (by decide)
      refine ⟨κ.brackets.unary, hκ.unary, ?_⟩
      rw [text_unary]
      apply hunary.imp
      rintro d ⟨a, q, hd, ha⟩
      rw [hd, unplaced, unplaced, ha]
  | binary op l r p ihl ihr =>
      obtain ⟨hop, hl, hr⟩ := hbound
      obtain ⟨κl, hκl, hleft⟩ := ihl hgenuine.1 hl
      obtain ⟨κr, hκr, hright⟩ := ihr hgenuine.2 hr
      have hprec := Operator.precedence_of_binary hop
      have hjoin := Phrase.join hop
        (hleft.brackets.lower (show op.precedence ≤ 12 by omega) (le_refl 12))
        (hright.brackets.lower (show op.precedence + 1 ≤ 12 by omega) (le_refl 12))
      refine ⟨Cost.join op.precedence κl.brackets κr.brackets, hκl.join _ hκr, ?_⟩
      rw [text_binary]
      apply (hjoin.lower op.precedence_pos (by omega)).imp
      rintro d ⟨a, b, q, hd, ha, hb⟩
      rw [hd, unplaced, unplaced, ha, hb]
  | call s e p ih =>
      obtain ⟨κ, hκ, hphrase⟩ := ih hgenuine.2 hbound
      have hcall := (Phrase.call hgenuine.1 hphrase).lower (show 1 ≤ 12 by decide) (le_refl 12)
      refine ⟨κ.call, hκ.call, ?_⟩
      rw [text_call]
      apply hcall.imp
      rintro d ⟨a, q, hd, ha⟩
      rw [hd, unplaced, unplaced, ha]
  | mark | group => exact hbound.elim

/-- **The bracketed text is a right inverse of the parser.**  Every parsed tree is well-formed; the text of
    every well-formed tree has tokens, and if the call stack has four frames for each pair of nested
    brackets, and four to spare, it is parsed as the tree, offsets apart.  So 364 frames are enough for
    90 nested brackets. -/
theorem parse_text_wellFormed [S : CallStack] :
    (∀ text e, parse text = .ok e → e.WellFormed)
      ∧ ∀ e : Expr, e.WellFormed →
        ∃ tokens, Token.lex e.text = .ok tokens
          ∧ (4 * bracketDepth tokens + 4 ≤ S.frames →
              ∃ e', parse e.text = .ok e' ∧ e'.unplaced = e.unplaced ∧ e'.sameAs e = true) := by
  refine ⟨fun text e h => wellFormed_of_parse h, fun e he => ?_⟩
  obtain ⟨κ, hκ, hphrase⟩ := phrase_text he
  obtain ⟨d, hcost, htree, hlex⟩ := hphrase.lex
  rw [String.ofList_toList] at hlex
  refine ⟨d.yield, hlex, fun hroom => ?_⟩
  subst hcost
  have hframes : d.frames ≤ S.frames := by
    rw [d.bracketDepth_yield] at hroom
    exact Nat.le_trans (Derivation.frames_le_of_bracketed hκ) hroom
  have hparse : parse e.text = .ok d.tree := parse_eq_ok_iff.mpr ⟨d, hlex, hframes, rfl⟩
  exact ⟨d.tree, hparse, htree, sameAs_of_unplaced_eq he htree⟩

/-- The tree of `--defined(defined) << +f()`. -/
def shiftedSteps : Expr :=
  .binary .shiftLeft (.unary .decrement (.call "defined" (.var "defined" none) none) none)
    (.unary .plus (.emptyCall "f" none) none) none

theorem parse_text_wellFormed_shiftedSteps :
    shiftedSteps.text = "(--(defined(defined))) << (+(f()))"
      ∧ ∃ e', parse "(--(defined(defined))) << (+(f()))" = .ok e'
        ∧ e'.unplaced = shiftedSteps.unplaced ∧ e'.sameAs shiftedSteps = true := by
  have hwell : shiftedSteps.WellFormed := by
    have hdefined : isIdentifier "defined".toList = true := by decide
    have hf : isIdentifier "f".toList = true := by decide
    exact ⟨⟨⟨hdefined, hdefined⟩, hf⟩, rfl, ⟨rfl, trivial⟩, rfl, trivial⟩
  have htext : shiftedSteps.text = "(--(defined(defined))) << (+(f()))" := by cbv
  have hlex : Token.lex "(--(defined(defined))) << (+(f()))" = .ok [.bracket 0 true,
      .operator 1 .decrement, .bracket 3 true, .name 4 "defined", .bracket 11 true, .name 12 "defined",
      .bracket 19 false, .bracket 20 false, .bracket 21 false, .operator 23 .shiftLeft,
      .bracket 26 true, .operator 27 .plus, .bracket 28 true, .name 29 "f", .bracket 30 true,
      .bracket 31 false, .bracket 32 false, .bracket 33 false] := by cbv
  obtain ⟨tokens, htokens, hparse⟩ := parse_text_wellFormed.2 shiftedSteps hwell
  rw [htext, hlex] at htokens
  cases htokens
  rw [htext] at hparse
  exact ⟨htext, hparse (by decide)⟩

end Expr

end HashIf
