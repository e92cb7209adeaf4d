import HashIf.Proofs.Balance

/-!
# `HashIf.Proofs.WritingBack`: matching brackets loses nothing

The tokens are written again from the groups that they were matched into, one pair of brackets around each
group but the outermost.  What comes out is the tokens, with the offset of a group on its opening bracket.
Only one thing is lost: if the tokens are all between one pair of brackets, the group of that pair is the
whole expression, and the pair is not written.

Where brackets do not match, the first closing bracket without a partner is told from an opening one by
prefixes alone: it is where, for the first time, more brackets are closed than opened.

## Contents
- `Piece`, `Token.piece`, `Expr.pieces`: tokens as they can be written from an expression.
- `Nested.rowPieces_eq`, `Nested.unique`, `balanced_iff_nested`: matched tokens are written back.
- `GroupIn`, `Between`, `Nested.between`: a group inside of an expression and its brackets.
- `Wrapped`, `Nested.rootItems_cases`: the pair that is not written.
- `FirstExcess`, `FirstExcess.unique`: the first closing bracket without a partner.
- `ofTokens_eq_error_iff`: why tokens are refused.
- `ofTokens_matches_brackets`: matching brackets, both ways.
-/

namespace HashIf

/-! ## Tokens and what is written for an expression -/

/-- A token as it is written from an expression.  The offset of a closing bracket and the length of a numeral
    are not kept in expressions. -/
inductive Piece where
  | opening (pos : Option Int)
  | closing
  | name (text : String) (pos : Option Int)
  | operator (op : Operator) (pos : Option Int)
  | number (value : Number) (pos : Option Int)
  /-- An expression that no single token is made into. -/
  | joined (e : Expr)

/-- What is left of a token in an expression. -/
def Token.piece : Token → Piece
  | .bracket p true => .opening (some p)
  | .bracket _ false => .closing
  | .name p s => .name s (some p)
  | .operator p op => .operator op (some p)
  | .number p _ v => .number v (some p)

namespace Expr

open Token

mutual

/-- The pieces of an expression, with a pair of brackets around each group. -/
def pieces : Expr → List Piece
  | var s p => [.name s p]
  | num v p => [.number v p]
  | mark op p => [.operator op p]
  | group items p => .opening p :: (rowPieces items ++ [.closing])
  | e => [.joined e]

/-- The pieces of the items of a group, without its own brackets. -/
def rowPieces : List Expr → List Piece
  | [] => []
  | e :: es => e.pieces ++ rowPieces es

end

/-- The items that are written for a whole expression: those of a group, or the expression itself. -/
def rootItems : Expr → List Expr
  | group items _ => items
  | e => [e]

/-! ## Matched tokens -/

/-- **Matched tokens are written back from their items.** -/
theorem Nested.rowPieces_eq {ts : List Token} {es : List Expr} (h : Nested ts es) :
    rowPieces es = ts.map Token.piece := by
  induction h with
  | nil => rfl
  | name p s _ ih => rw [rowPieces, pieces, ih]; rfl
  | number p n v _ ih => rw [rowPieces, pieces, ih]; rfl
  | operator p op _ ih => rw [rowPieces, pieces, ih]; rfl
  | brackets p q _ _ ihin ih =>
      rw [rowPieces, pieces, ihin, ih, List.map_cons, List.map_append, List.map_cons, List.cons_append,
        List.append_assoc]
      rfl

/-- The items are determined by the tokens. -/
theorem Nested.unique {ts : List Token} {es fs : List Expr} (h : Nested ts es) (h' : Nested ts fs) :
    es = fs := by
  have hrun := nest_of_nested h ⟨0, []⟩ [] []
  rw [nest_of_nested h' ⟨0, []⟩ [] [], nest, nest] at hrun
  simp only [List.append_nil, Except.ok.injEq, Prod.mk.injEq, Frame.mk.injEq, true_and, and_true,
    List.reverse_inj] at hrun
  exact hrun.symm

/-- **Brackets match by their number exactly if they match as pairs.** -/
theorem balanced_iff_nested {ts : List Token} : Balanced ts ↔ ∃ es, Nested ts es := by
  rcases ofTokens_cases ts with ⟨hbalanced, e, he⟩ | ⟨fault, k, himbalance, hrun⟩
  · obtain ⟨es, hn, -⟩ := ofTokens_eq_ok_iff.mp he
    exact iff_of_true hbalanced ⟨es, hn⟩
  · refine iff_of_false himbalance.not_balanced ?_
    rintro ⟨es, hn⟩
    rw [ofTokens_eq_ok_iff.mpr ⟨es, hn, rfl⟩] at hrun
    cases hrun

/-! ## Groups and their brackets -/

/-- The group of the items `inner` with offset `pos` is among the items or, at any depth, inside of them. -/
inductive GroupIn : List Expr → List Expr → Option Int → Prop where
  | here {items inner : List Expr} {pos : Option Int} (h : .group inner pos ∈ items) : GroupIn items inner pos
  | deeper {items between inner : List Expr} {p pos : Option Int} (h : .group between p ∈ items)
      (hin : GroupIn between inner pos) : GroupIn items inner pos

/-- The tokens `inner` are what stands between an opening bracket at offset `k` and its partner. -/
def Between (ts : List Token) (k : Nat) (inner : List Token) : Prop :=
  Balanced inner ∧ ∃ us q vs, ts = us ++ .bracket k true :: (inner ++ .bracket q false :: vs)

/-- What stands between brackets in a part of the tokens does so in all of them. -/
theorem Between.within {ts inner : List Token} {k : Nat} (h : Between ts k inner) (before after : List Token) :
    Between (before ++ (ts ++ after)) k inner := by
  obtain ⟨hbalanced, us, q, vs, rfl⟩ := h
  refine ⟨hbalanced, before ++ us, q, vs ++ after, ?_⟩
  simp only [List.append_assoc, List.cons_append]

theorem Nested.between_of_mem {ts : List Token} {es : List Expr} (h : Nested ts es) {inner : List Expr}
    {pos : Option Int} (hmem : .group inner pos ∈ es) :
    ∃ k us, Between ts k us ∧ pos = some (k : Int) ∧ Nested us inner := by
  have hskip : ∀ (t : Token) {ts : List Token},
      (∃ k us, Between ts k us ∧ pos = some (k : Int) ∧ Nested us inner) →
      ∃ k us, Between (t :: ts) k us ∧ pos = some (k : Int) ∧ Nested us inner := by
    rintro t ts ⟨k, us, hbetween, hpos, hn⟩
    have hwithin := hbetween.within [t] []
    rw [List.append_nil] at hwithin
    exact ⟨k, us, hwithin, hpos, hn⟩
  induction h with
  | nil => cases hmem
  | name p s _ ih => exact hskip _ (ih (List.mem_of_ne_of_mem (by simp) hmem))
  | number p n v _ ih => exact hskip _ (ih (List.mem_of_ne_of_mem (by simp) hmem))
  | operator p op _ ih => exact hskip _ (ih (List.mem_of_ne_of_mem (by simp) hmem))
  | @brackets ts us es fs p q hin h _ ih =>
      rcases List.mem_cons.mp hmem with heq | hmem
      · cases heq
        exact ⟨p, ts, ⟨balanced_iff_nested.mpr ⟨_, hin⟩, [], q, us, rfl⟩, rfl, hin⟩
      · obtain ⟨k, vs, hbetween, hpos, hn⟩ := ih hmem
        have hwithin := hbetween.within (.bracket p true :: (ts ++ [.bracket q false])) []
        rw [List.append_nil, List.cons_append, List.append_assoc, List.singleton_append] at hwithin
        exact ⟨k, vs, hwithin, hpos, hn⟩

/-- **A group is what stands between the bracket at its offset and the partner of that bracket.** -/
theorem Nested.between {ts : List Token} {es : List Expr} (h : Nested ts es) {inner : List Expr}
    {pos : Option Int} (hin : GroupIn es inner pos) :
    ∃ k us, Between ts k us ∧ pos = some (k : Int) ∧ Nested us inner := by
  induction hin generalizing ts with
  | here hmem => exact h.between_of_mem hmem
  | deeper hmem _ ih =>
      obtain ⟨p, vs, ⟨-, us, q, ws, rfl⟩, -, hn⟩ := h.between_of_mem hmem
      obtain ⟨k, us', hbetween, hpos, hn'⟩ := ih hn
      refine ⟨k, us', ?_, hpos, hn'⟩
      have hwithin := hbetween.within (us ++ [.bracket p true]) (.bracket q false :: ws)
      rw [List.append_assoc, List.singleton_append] at hwithin
      exact hwithin

/-! ## The outermost pair -/

/-- All of the tokens are between a bracket at offset `k` and its partner, and are `inner`. -/
def Wrapped (ts : List Token) (k : Nat) (inner : List Token) : Prop :=
  Balanced inner ∧ ∃ q, ts = .bracket k true :: (inner ++ [.bracket q false])

/-- Tokens between one pair of brackets are one group. -/
theorem Nested.of_wrapped {ts inner : List Token} {es : List Expr} {k : Nat} (h : Nested ts es)
    (hwrapped : Wrapped ts k inner) : ∃ items, es = [.group items (some (k : Int))] := by
  obtain ⟨hbalanced, q, rfl⟩ := hwrapped
  obtain ⟨items, hin⟩ := balanced_iff_nested.mp hbalanced
  exact ⟨items, h.unique (.brackets k q hin .nil)⟩

/-- Only the expression of a single group has other items than those that the tokens were matched into. -/
theorem rootItems_ofItems (es : List Expr) :
    (∃ items pos, es = [.group items pos])
      ∨ (∀ items pos, es ≠ [.group items pos]) ∧ (ofItems es).rootItems = es := by
  match es with
  | [] => exact .inr ⟨by simp, rfl⟩
  | [.group items pos] => exact .inl ⟨items, pos, rfl⟩
  | [.var ..] | [.num ..] | [.mark ..] | [.unary ..] | [.binary ..] | [.emptyCall ..] | [.call ..] =>
      exact .inr ⟨by simp, rfl⟩
  | _ :: _ :: _ => exact .inr ⟨by simp, rfl⟩

/-- A group inside of the expression is inside of the items. -/
theorem GroupIn.of_rootItems {es inner : List Expr} {pos : Option Int}
    (h : GroupIn (ofItems es).rootItems inner pos) : GroupIn es inner pos := by
  rcases rootItems_ofItems es with ⟨items, p, rfl⟩ | ⟨-, heq⟩
  · exact .deeper (List.mem_singleton_self _) h
  · rwa [heq] at h

/-- **The whole expression is written back**, except for a pair of brackets around all of it. -/
theorem Nested.rootItems_cases {ts : List Token} {es : List Expr} (h : Nested ts es) :
    ((∀ k inner, ¬ Wrapped ts k inner) ∧ rowPieces (ofItems es).rootItems = ts.map Token.piece)
      ∨ ∃ k inner, Wrapped ts k inner ∧ (ofItems es).pos = some (k : Int)
        ∧ rowPieces (ofItems es).rootItems = inner.map Token.piece := by
  rcases rootItems_ofItems es with ⟨items, pos, rfl⟩ | ⟨hne, heq⟩
  · cases h with
    | brackets p q hin hrest =>
        rw [hrest.eq_nil]
        exact .inr ⟨p, _, ⟨balanced_iff_nested.mpr ⟨_, hin⟩, q, rfl⟩, rfl, hin.rowPieces_eq⟩
  · refine .inl ⟨?_, by rw [heq, h.rowPieces_eq]⟩
    intro k inner hwrapped
    obtain ⟨items, hes⟩ := h.of_wrapped hwrapped
    exact hne items _ hes

/-! ## Brackets that do not match -/

/-- Behind the tokens `us`, the closing bracket at offset `k` is the first one up to which more brackets are
    closed than opened. -/
structure FirstExcess (ts us : List Token) (k : Nat) : Prop where
  place : us ++ [.bracket k false] <+: ts
  covered : ∀ vs, vs <+: us → closings vs ≤ openings vs
  excess : openings (us ++ [.bracket k false]) < closings (us ++ [.bracket k false])

theorem firstExcess_iff {ts us : List Token} {k : Nat} :
    FirstExcess ts us k ↔ us ++ [.bracket k false] <+: ts ∧ Balanced us := by
  have hone : closings [.bracket k false] = 1 ∧ openings [.bracket k false] = 0 := ⟨rfl, rfl⟩
  constructor
  · rintro ⟨hplace, hcovered, hexcess⟩
    have hle := hcovered us (List.prefix_refl us)
    rw [openings_append, closings_append] at hexcess
    exact ⟨hplace, hcovered, by omega⟩
  · rintro ⟨hplace, hcovered, hcomplete⟩
    refine ⟨hplace, hcovered, ?_⟩
    rw [openings_append, closings_append]
    omega

/-- There is only one such bracket. -/
theorem FirstExcess.unique {ts us us' : List Token} {k k' : Nat} (h : FirstExcess ts us k)
    (h' : FirstExcess ts us' k') : k = k' := by
  -- Of two such brackets, the one further to the left is not covered behind the other.
  have hshort : ∀ {us us' : List Token} {k k' : Nat}, FirstExcess ts us k → FirstExcess ts us' k' →
      ¬ us.length < us'.length := by
    intro us us' k k' h h' hlt
    have hpre : us ++ [.bracket k false] <+: us' :=
      List.prefix_of_prefix_length_le h.place ((List.prefix_append _ _).trans h'.place)
        (by rw [List.length_append, List.length_singleton]; omega)
    exact absurd h.excess (Nat.not_lt.mpr (h'.covered _ hpre))
  have hlen : us.length = us'.length := by
    have := hshort h h'
    have := hshort h' h
    omega
  have hlen' : (us ++ [Token.bracket k false]).length = (us' ++ [Token.bracket k' false]).length := by
    rw [List.length_append, List.length_append, hlen]
    rfl
  have heq : us ++ [.bracket k false] = us' ++ [.bracket k' false] :=
    (List.prefix_of_prefix_length_le h.place h'.place (Nat.le_of_eq hlen')).eq_of_length hlen'
  obtain ⟨-, hlast⟩ := List.append_inj heq hlen
  cases hlast
  rfl

/-- **Why tokens are refused**: for the first closing bracket without a partner or, if there is none, for the
    end of the last token. -/
theorem ofTokens_eq_error_iff {ts : List Token} {f : LocatedFault} :
    ofTokens ts = .error f
      ↔ (∃ us k, FirstExcess ts us k ∧ f = ⟨.tooManyClosing, some (k : Int)⟩)
        ∨ ((∀ us, us <+: ts → closings us ≤ openings us) ∧ closings ts < openings ts
          ∧ ∃ last, ts.getLast? = some last ∧ f = ⟨.missingClosing, some (last.endPos : Int)⟩) := by
  constructor
  · intro hrun
    rcases ofTokens_cases ts with ⟨-, e, he⟩ | ⟨fault, k, himbalance, herr⟩
    · rw [he] at hrun
      cases hrun
    · rw [herr] at hrun
      cases hrun
      cases himbalance with
      | closing hpre hus => exact .inl ⟨_, _, firstExcess_iff.mpr ⟨hpre, hus⟩, rfl⟩
      | opening hlast hcovered hopen => exact .inr ⟨hcovered, hopen, _, hlast, rfl⟩
  · rintro hcase
    rcases ofTokens_cases ts with ⟨hbalanced, -⟩ | ⟨fault, k, himbalance, herr⟩
    · rcases hcase with ⟨us, k, hfirst, rfl⟩ | ⟨-, hopen, -⟩
      · exact absurd hfirst.excess (Nat.not_lt.mpr (hbalanced.covered _ hfirst.place))
      · exact absurd hbalanced.complete (Nat.ne_of_lt hopen)
    · rw [herr]
      cases himbalance with
      | closing hpre hus =>
          rcases hcase with ⟨us', k', hfirst, rfl⟩ | ⟨hcovered, -, -⟩
          · rw [hfirst.unique (firstExcess_iff.mpr ⟨hpre, hus⟩)]
          · exact absurd (firstExcess_iff.mpr ⟨hpre, hus⟩).excess (Nat.not_lt.mpr (hcovered _ hpre))
      | opening hlast hcovered hopen =>
          rcases hcase with ⟨us, k, hfirst, rfl⟩ | ⟨-, -, last', hlast', rfl⟩
          · exact absurd hfirst.excess (Nat.not_lt.mpr (hcovered _ hfirst.place))
          · rw [hlast] at hlast'
            cases hlast'
            rfl

/-- **Matching brackets loses nothing.**  Tokens are accepted exactly if no prefix of them closes more brackets
    than it opens and all of them close as many as they open.  They are refused for the first closing bracket
    up to which more are closed than opened; if there is none, for the end of the last token.  The accepted
    tokens are written again from the expression with one pair of brackets around each group inside of it; only
    a pair around all of the tokens is missing.  The offset of each of these groups is the one of its own
    opening bracket: between this bracket and its partner stand the tokens of the group. -/
theorem ofTokens_matches_brackets (ts : List Token) :
    ((∃ e, ofTokens ts = .ok e)
        ↔ (∀ us, us <+: ts → closings us ≤ openings us) ∧ closings ts = openings ts)
      ∧ (∀ f, ofTokens ts = .error f
        ↔ (∃ us k, FirstExcess ts us k ∧ f = ⟨.tooManyClosing, some (k : Int)⟩)
          ∨ ((∀ us, us <+: ts → closings us ≤ openings us) ∧ closings ts < openings ts
            ∧ ∃ last, ts.getLast? = some last ∧ f = ⟨.missingClosing, some (last.endPos : Int)⟩))
      ∧ (Fault.tooManyClosing.stage = .structural
        ∧ Fault.tooManyClosing.message = "Unbalanced brackets (too many closing)")
      ∧ (Fault.missingClosing.stage = .structural
        ∧ Fault.missingClosing.message = "Unbalanced brackets (missing closing)")
      ∧ ∀ e, ofTokens ts = .ok e →
        (((∀ k inner, ¬ Wrapped ts k inner) ∧ rowPieces e.rootItems = ts.map Token.piece)
          ∨ ∃ k inner, Wrapped ts k inner ∧ e.pos = some (k : Int)
            ∧ rowPieces e.rootItems = inner.map Token.piece)
        ∧ ∀ g pos, GroupIn e.rootItems g pos →
          ∃ k inner, Between ts k inner ∧ pos = some (k : Int) ∧ rowPieces g = inner.map Token.piece := by
  refine ⟨⟨?_, ?_⟩, fun f => ofTokens_eq_error_iff, ⟨rfl, rfl⟩, ⟨rfl, rfl⟩, ?_⟩
  · rintro ⟨e, he⟩
    obtain ⟨es, hn, -⟩ := ofTokens_eq_ok_iff.mp he
    have hbalanced : Balanced ts := balanced_iff_nested.mpr ⟨es, hn⟩
    exact ⟨hbalanced.covered, hbalanced.complete⟩
  · rintro ⟨hcovered, hcomplete⟩
    obtain ⟨es, hn⟩ := balanced_iff_nested.mp ⟨hcovered, hcomplete⟩
    exact ⟨ofItems es, ofTokens_eq_ok_iff.mpr ⟨es, hn, rfl⟩⟩
  · intro e he
    obtain ⟨es, hn, rfl⟩ := ofTokens_eq_ok_iff.mp he
    refine ⟨hn.rootItems_cases, ?_⟩
    intro g pos hgroup
    obtain ⟨k, inner, hbetween, hpos, hin⟩ := hn.between hgroup.of_rootItems
    exact ⟨k, inner, hbetween, hpos, hin.rowPieces_eq⟩

/-- The tokens of `((a) (b c))`. -/
def twoPairs : List Token :=
  [.bracket 0 true, .bracket 1 true, .name 2 "a", .bracket 3 false, .bracket 5 true, .name 6 "b", .name 8 "c",
    .bracket 9 false, .bracket 10 false]

/-- The groups of `((a) (b c))`. -/
def twoGroups : Expr :=
  .group [.group [.var "a" (some 2)] (some 1), .group [.var "b" (some 6), .var "c" (some 8)] (some 5)] (some 0)

theorem ofTokens_matches_brackets_twoPairs :
    ofTokens twoPairs = .ok twoGroups
      ∧ ((∀ k inner, ¬ Wrapped twoPairs k inner) ∧ rowPieces twoGroups.rootItems = twoPairs.map Token.piece
        ∨ ∃ k inner, Wrapped twoPairs k inner ∧ some (0 : Int) = some (k : Int)
          ∧ rowPieces twoGroups.rootItems = inner.map Token.piece)
      ∧ ∃ k inner, Between twoPairs k inner ∧ some (5 : Int) = some (k : Int)
        ∧ rowPieces [.var "b" (some 6), .var "c" (some 8)] = inner.map Token.piece := by
  have hok : ofTokens twoPairs = .ok twoGroups := rfl
  obtain ⟨hroot, hgroups⟩ := (ofTokens_matches_brackets twoPairs).2.2.2.2 twoGroups hok
  exact ⟨hok, hroot, hgroups _ _ (.here (List.mem_cons_of_mem _ (List.mem_singleton_self _)))⟩

end Expr

end HashIf
