import HashIf.Expr.Parse
import HashIf.Proofs.BindingFrames
import HashIf.Proofs.Bracketing
import HashIf.Proofs.Lexing
import HashIf.Proofs.Resolution
import Mathlib

/-!
# `HashIf.Proofs.Parsing`: the parser accepts the grammar of conditions

Each stage of the parser has a description of its own: `Nested` for the matching of brackets, `joined`
for the joining of calls and `Binds` for the binding of operators.  Put together they are the grammar:
a derivation goes through the three stages, and what goes through them has a derivation.

## Contents
- `Derivation.measured`: the tokens of a derivation nest, and their joined items bind to its tree at its cost.
- `derivation_of_binds`: nested tokens whose joined items bind have a derivation.
- `resolveTokens_eq_ok_iff`: the trees of token lists are the trees of derivations.
- `parse_eq_ok_iff`: the same for texts.
- `parse_recognizes_grammar`: the parser as a recognizer of the grammar, with unique derivations.
- `steps`: conditions that need many frames and no brackets.
-/

namespace HashIf

open HashIf.Expr

/-! ## From derivations to items -/

/-- **A derivation goes through the stages of the parser**, at the cost of its rules. -/
theorem Derivation.measured {k : Nat} (d : Derivation k) :
    ∃ items, Nested d.yield items ∧ Measured k items d.tree d.cost := by
  induction d with
  | number p n v => exact ⟨_, .number p n v .nil, .atom rfl rfl (by simp only [resolveFrames]) (.num v _)⟩
  | name p s => exact ⟨_, .name p s .nil, .atom rfl rfl (by simp only [resolveFrames]) (.var s _)⟩
  | brackets p d q ih =>
      obtain ⟨items, hn, hm⟩ := ih
      exact ⟨_, .brackets p q hn .nil, hm.brackets _⟩
  | emptyCall p s q q' => exact ⟨_, .name p s (.brackets q q' .nil .nil), .emptyCall s _ _⟩
  | call p s q d q' ih =>
      obtain ⟨items, hn, hm⟩ := ih
      exact ⟨_, .name p s (.brackets q q' hn .nil), hm.call s _ _⟩
  | defined p q s => exact ⟨_, .name p definedName (.name q s .nil), .defined s _ _⟩
  | prefixed p op hop d ih =>
      obtain ⟨items, hn, hm⟩ := ih
      exact ⟨_, .operator p op hn, hm.prefixed hop _⟩
  | postfixed d p op hop ih =>
      obtain ⟨items, hn, hm⟩ := ih
      exact ⟨_, hn.append (.operator p op .nil), hm.postfixed hop _⟩
  | @tighter k hk d ih =>
      obtain ⟨items, hn, hm⟩ := ih
      exact ⟨items, hn, hm.tighter hk d.form_ne_chain⟩
  | join l p op hop hk r ihl ihr =>
      subst hk
      obtain ⟨ls, hnl, hml⟩ := ihl
      obtain ⟨rs, hnr, hmr⟩ := ihr
      exact ⟨_, hnl.append (.operator p op hnr), hml.join hop hmr _⟩

/-! ## From items to derivations -/

/-- A derivation of a primary from bracketed tokens brackets a derivation of the tokens inside. -/
theorem Derivation.of_bracketed (d : Derivation 12) {p q : Nat} {ts : List Token}
    (h : d.yield = .bracket p true :: (ts ++ [.bracket q false])) :
    ∃ d' : Derivation 1, d'.yield = ts ∧ d'.tree = d.tree := by
  cases d with
  | brackets p' d' q' =>
      obtain ⟨hts, -⟩ := append_bracket_inj (List.cons.inj h).2
      exact ⟨d', hts, rfl⟩
  | join _ _ op _ hk =>
      have := op.precedence_le
      omega
  | tighter hk => omega
  | _ => cases h

/-- A call with an argument has a derivation if its argument has one wherever it stands alone. -/
theorem derivation_of_call {n : String} {p : Option Int} {a e : Expr} {items : List Expr}
    {ts : List Token} (hb : Binds 12 [a] e)
    (ha : ∀ {items ts}, joined items = [a] → Nested ts items →
      ∃ d : Derivation 12, d.yield = ts ∧ d.tree = e)
    (hj : joined items = [.call n a p]) (hn : Nested ts items) :
    ∃ d : Derivation 12, d.yield = ts ∧ d.tree = .call n e p := by
  rcases joined_eq_singleton hj with
    ⟨y, rfl, hy⟩ | ⟨_, _, _, _, ⟨⟩⟩ | ⟨n, p, inner, q, a, rfl, hin, ⟨⟩⟩ | ⟨p, m, q, rfl, ⟨⟩⟩
  · cases hn <;> cases hy
  · cases hn with
    | name p _ h =>
        cases h with
        | @brackets ts _ _ _ q q' hinner h =>
            obtain rfl := h.eq_nil
            have harg : ∃ d : Derivation 1, d.yield = ts ∧ d.tree = e := by
              rcases hin with hone | rfl
              · obtain ⟨d, hyield, htree⟩ := ha hone hinner
                refine ⟨d.lower 1 (by decide) (by decide), ?_, ?_⟩
                · rw [Derivation.yield_lower, hyield]
                · rw [Derivation.tree_lower, htree]
              -- Several items were kept as a group, which binds as if its brackets stood alone.
              · obtain ⟨d, hyield, rfl⟩ := ha (joined_singleton _) (.brackets q q' hinner .nil)
                exact d.of_bracketed hyield
            obtain ⟨d, rfl, rfl⟩ := harg
            exact ⟨.call p n q d q', rfl, rfl⟩
  · cases hn with
    | name p _ h =>
        cases h with
        | name q _ h =>
            obtain rfl := h.eq_nil
            -- The name behind `defined` is a variable, which binds to itself.
            have hvar := hb.resolves.1 none
            simp only [resolveItems, resolve] at hvar
            cases hvar
            exact ⟨.defined p q m, rfl, rfl⟩

/-- **What goes through the stages of the parser has a derivation.**  The induction is on how the joined
    items bind; that they are what some tokens were nested and joined to is carried along. -/
theorem derivation_of_binds {k : Nat} {joins items : List Expr} {e : Expr} {ts : List Token}
    (hb : Binds k joins e) (hj : joined items = joins) (hn : Nested ts items) :
    ∃ d : Derivation k, d.yield = ts ∧ d.tree = e := by
  induction hb generalizing items ts with
  | var n p =>
      rcases joined_eq_singleton hj with
        ⟨y, rfl, hy⟩ | ⟨_, _, _, _, ⟨⟩⟩ | ⟨_, _, _, _, _, _, _, ⟨⟩⟩ | ⟨_, _, _, _, ⟨⟩⟩
      obtain rfl := eq_var_of_detectCalls hy
      cases hn with
      | name p _ h =>
          obtain rfl := h.eq_nil
          exact ⟨.name p n, rfl, rfl⟩
  | num v p =>
      rcases joined_eq_singleton hj with
        ⟨y, rfl, hy⟩ | ⟨_, _, _, _, ⟨⟩⟩ | ⟨_, _, _, _, _, _, _, ⟨⟩⟩ | ⟨_, _, _, _, ⟨⟩⟩
      cases hn with
      | number p n v h =>
          obtain rfl := h.eq_nil
          cases hy
          exact ⟨.number p n v, rfl, rfl⟩
      | _ => cases hy
  | emptyCall n p =>
      rcases joined_eq_singleton hj with
        ⟨y, rfl, hy⟩ | ⟨n, p, q, rfl, ⟨⟩⟩ | ⟨_, _, _, _, _, _, _, ⟨⟩⟩ | ⟨_, _, _, _, ⟨⟩⟩
      · cases hn <;> cases hy
      · cases hn with
        | name p _ h =>
            cases h with
            | brackets q q' hin h =>
                obtain rfl := h.eq_nil
                obtain rfl := hin.eq_nil
                exact ⟨.emptyCall p n q q', rfl, rfl⟩
  | call n p hb ih => exact derivation_of_call hb ih hj hn
  | @group inner e p hb ih =>
      rcases joined_eq_singleton hj with
        ⟨y, rfl, hy⟩ | ⟨_, _, _, _, ⟨⟩⟩ | ⟨_, _, _, _, _, _, _, ⟨⟩⟩ | ⟨_, _, _, _, ⟨⟩⟩
      obtain ⟨items, rfl, hitems⟩ := eq_group_of_detectCalls hy
      cases hn with
      | brackets p q hin h =>
          obtain rfl := h.eq_nil
          obtain ⟨d, rfl, rfl⟩ := ih hitems hin
          exact ⟨.brackets p d q, rfl, rfl⟩
  -- Above the operands, the mark that was bound last tells where the tokens are to be cut.
  | @prefixed op x e p hop hb ih =>
      obtain ⟨xs, ys, rfl, hxs, hys⟩ := @joined_eq_append_mark items [] [x] op p hj
      obtain rfl := joined_eq_nil hxs
      obtain ⟨us, p, vs, rfl, rfl, hus, hvs⟩ := hn.split_mark
      obtain rfl := hus.eq_nil
      obtain ⟨d, rfl, rfl⟩ := ih hys hvs
      exact ⟨.prefixed p op hop d, rfl, rfl⟩
  | postfixed p hop hb ih =>
      obtain ⟨xs, ys, rfl, hxs, hys⟩ := joined_eq_append_mark hj
      obtain rfl := joined_eq_nil hys
      obtain ⟨us, p, vs, rfl, rfl, hus, hvs⟩ := hn.split_mark
      obtain rfl := hvs.eq_nil
      obtain ⟨d, rfl, rfl⟩ := ih hxs hus
      exact ⟨.postfixed d p _ hop, rfl, rfl⟩
  | tighter hk hb ih =>
      obtain ⟨d, rfl, rfl⟩ := ih hj hn
      exact ⟨.tighter hk d, rfl, rfl⟩
  | join p hop hk hl hr ihl ihr =>
      obtain ⟨xs, ys, rfl, hxs, hys⟩ := joined_eq_append_mark hj
      obtain ⟨us, p, vs, rfl, rfl, hus, hvs⟩ := hn.split_mark
      obtain ⟨l, rfl, rfl⟩ := ihl hxs hus
      obtain ⟨r, rfl, rfl⟩ := ihr hys hvs
      exact ⟨.join l p _ hop hk r, rfl, rfl⟩

/-! ## Resolved tokens -/

namespace Expr

/-- **Nested items resolve exactly if they bind after their calls were joined.**  A single item is not
    wrapped in a group before its calls are joined, which makes no difference. -/
theorem resolve_ofItems_eq_ok_iff {items : List Expr} {e : Expr} (hu : ∀ x ∈ items, Unbound x) :
    resolve (detectCalls (ofItems items)) = .ok e ↔ Binds 1 (joined items) e := by
  match items with
  | [x] =>
      have hx := hu x List.mem_cons_self
      rw [ofItems, resolve_eq_ok_iff (detectCalls_unbound hx), joined_singleton]
      exact ⟨fun h => h.lower (by decide) (by decide), fun h => h.of_singleton⟩
  | [] =>
      rw [ofItems, detectCalls, resolve]
      · exact resolveItems_eq_ok_iff (joined_unbound hu)
      · intro x h
        cases h
  | x :: y :: rest =>
      rw [ofItems, detectCalls, resolve]
      · exact resolveItems_eq_ok_iff (joined_unbound hu)
      · intro x h
        cases h

end Expr

/-- Brackets leave no group behind. -/
theorem Derivation.hasGroup_tree {k : Nat} (d : Derivation k) : d.tree.hasGroup = false := by
  induction d with
  | number | name | emptyCall | defined => rfl
  | join l p op hop hk r ihl ihr => simp only [tree, hasGroup, ihl, ihr, Bool.or_false]
  | _ => assumption

namespace Expr

/-- **The tokens of a derivation** have its tree if there are enough frames, else they are refused. -/
theorem resolveTokens_yield [CallStack] (d : Derivation 1) :
    resolveTokens d.yield = CallStack.within d.frames ⟨.nestedTooDeeply, none⟩ (.ok d.tree) := by
  obtain ⟨items, hn, hm⟩ := d.measured
  have hnested := ofTokens_eq_ok_iff.mpr ⟨items, hn, rfl⟩
  have hresolve := (resolve_ofItems_eq_ok_iff hn.unbound).mpr hm.binds
  have hbind : bindNested (ofItems items) = .ok d.tree := by
    simp only [bindNested, hresolve, d.hasGroup_tree]
    rfl
  simp only [resolveTokens, hnested, hm.bindingFrames_eq, hbind, Derivation.frames]

/-- Tokens with a tree have a derivation. -/
theorem exists_derivation_of_resolveTokens [CallStack] {tokens : List Token} {e : Expr}
    (h : resolveTokens tokens = .ok e) : ∃ d : Derivation 1, d.yield = tokens := by
  unfold resolveTokens at h
  split at h
  · cases h
  rename_i nested hnested
  obtain ⟨items, hn, rfl⟩ := ofTokens_eq_ok_iff.mp hnested
  obtain ⟨-, hbind⟩ := CallStack.within_eq_ok_iff.mp h
  unfold bindNested at hbind
  split at hbind
  · cases hbind
  rename_i e' he'
  have hbinds := (resolve_ofItems_eq_ok_iff hn.unbound).mp he'
  obtain ⟨d, hyield, -⟩ := derivation_of_binds hbinds rfl hn
  exact ⟨d, hyield⟩

/-- **A list of tokens has a tree exactly if it has a derivation** for which there are enough frames; the
    tree is that of the derivation. -/
theorem resolveTokens_eq_ok_iff [S : CallStack] {tokens : List Token} {e : Expr} :
    resolveTokens tokens = .ok e
      ↔ ∃ d : Derivation 1, d.yield = tokens ∧ d.frames ≤ S.frames ∧ d.tree = e := by
  constructor
  · intro h
    obtain ⟨d, rfl⟩ := exists_derivation_of_resolveTokens h
    rw [resolveTokens_yield, CallStack.within_eq_ok_iff] at h
    obtain ⟨hframes, htree⟩ := h
    exact ⟨d, rfl, hframes, Except.ok.inj htree⟩
  · rintro ⟨d, rfl, hframes, rfl⟩
    rw [resolveTokens_yield, CallStack.within_eq_ok_iff]
    exact ⟨hframes, rfl⟩

/-- What the tokens of a text say about its tree. -/
theorem parse_of_lex [CallStack] {text : String} {tokens : List Token}
    (h : Token.lex text = .ok tokens) :
    parse text
      = (resolveTokens tokens).mapError fun f => .rejected (.ofLocated (some text) f) := by
  unfold parse
  rw [h]

/-- **A text with a derivation** has its tree if there are enough frames, else it is refused. -/
theorem parse_of_derivation [CallStack] {text : String} {d : Derivation 1}
    (h : Token.lex text = .ok d.yield) :
    parse text
      = CallStack.within d.frames (.rejected ⟨.nestedTooDeeply, some text, []⟩) (.ok d.tree) := by
  rw [parse_of_lex h, resolveTokens_yield, CallStack.mapError_within]
  rfl

/-- **A text has a tree exactly if its tokens have a derivation** for which there are enough frames. -/
theorem parse_eq_ok_iff [S : CallStack] {text : String} {e : Expr} :
    parse text = .ok e
      ↔ ∃ d : Derivation 1, Token.lex text = .ok d.yield ∧ d.frames ≤ S.frames ∧ d.tree = e := by
  constructor
  · intro h
    cases hlex : Token.lex text with
    | error f =>
        unfold parse at h
        rw [hlex] at h
        cases h
    | ok tokens =>
        rw [parse_of_lex hlex] at h
        cases hres : resolveTokens tokens with
        | error f =>
            rw [hres] at h
            cases h
        | ok e' =>
            rw [hres] at h
            cases h
            obtain ⟨d, rfl, hframes, rfl⟩ := resolveTokens_eq_ok_iff.mp hres
            exact ⟨d, rfl, hframes, rfl⟩
  · rintro ⟨d, hlex, hframes, rfl⟩
    rw [parse_of_lex hlex, resolveTokens_eq_ok_iff.mpr ⟨d, rfl, hframes, rfl⟩]
    rfl

/-! ## The parser as a recognizer -/

/-- **The parser recognizes the grammar of conditions, as far as the call stack reaches.**  A text that has
    tokens is parsed exactly if the tokens have a derivation from the start symbol and the stack has room
    for the frames of the derivation; the result is the tree of the derivation, offsets included.  There is
    at most one derivation.  It takes no more than twenty-five frames for each nested bracket, two for each
    step operator, and twenty-seven.  If the stack has no room for it, the text is refused as nested too
    deeply.  Tokens without a derivation are rejected as a malformed expression. -/
theorem parse_recognizes_grammar [S : CallStack] {text : String} {tokens : List Token}
    (hlex : Token.lex text = .ok tokens) :
    (∀ e, parse text = .ok e
        ↔ ∃ d : Derivation 1, d.yield = tokens ∧ d.frames ≤ S.frames ∧ d.tree = e)
      ∧ (∀ d d' : Derivation 1, d.yield = tokens → d'.yield = tokens → d = d')
      ∧ (∀ d : Derivation 1, d.yield = tokens →
          d.frames ≤ 25 * bracketDepth tokens + 2 * tokens.countP Token.isStep + 27)
      ∧ (∀ d : Derivation 1, d.yield = tokens → S.frames < d.frames →
          parse text = .error (.rejected ⟨.nestedTooDeeply, some text, []⟩))
      ∧ ((¬ ∃ d : Derivation 1, d.yield = tokens) → ∃ r, parse text = .error (.rejected r)) := by
  refine ⟨fun e => ?_, fun d d' hd hd' => ?_, fun d hd => ?_, fun d hd hframes => ?_, fun hnone => ?_⟩
  · rw [parse_eq_ok_iff]
    constructor
    · rintro ⟨d, hd, hframes, htree⟩
      rw [hlex] at hd
      cases hd
      exact ⟨d, rfl, hframes, htree⟩
    · rintro ⟨d, rfl, hframes, htree⟩
      exact ⟨d, hlex, hframes, htree⟩
  · exact d.eq_of_yield_eq d' (hd.trans hd'.symm)
  · subst hd
    exact d.frames_le
  · subst hd
    rw [parse_of_derivation hlex]
    exact if_pos hframes
  · rw [parse_of_lex hlex]
    cases hres : resolveTokens tokens with
    | error f => exact ⟨_, rfl⟩
    | ok e => exact absurd (exists_derivation_of_resolveTokens hres) hnone

/-- The derivation of `-a++ || defined b`. -/
def signedStep : Derivation 1 :=
  .join (((Derivation.name 1 "a").prefixed 0 .minus rfl).postfixed 2 .increment rfl |>.lower 1
      (by decide) (by decide))
    5 .boolOr rfl rfl ((Derivation.defined 8 16 "b").lower 2 (by decide) (by decide))

theorem parse_recognizes_grammar_signedStep :
    parse "-a++ || defined b"
      = .ok (.binary .boolOr
          (.unary .increment (.unary .minus (.var "a" (some 1)) (some 0)) (some 2))
          (.call "defined" (.var "b" (some 16)) (some 8)) (some 5)) := by
  have hyield : signedStep.yield = [.operator 0 .minus, .name 1 "a", .operator 2 .increment,
      .operator 5 .boolOr, .name 8 "defined", .name 16 "b"] := by
    simp only [signedStep, Derivation.yield, Derivation.yield_lower]
    rfl
  have hlex : Token.lex "-a++ || defined b" = .ok signedStep.yield := by
    rw [hyield]
    cbv
  have hframes : signedStep.frames ≤ CallStack.standard.frames := by
    simp only [signedStep, Derivation.frames, Derivation.cost, Derivation.cost_lower]
    decide
  refine ((parse_recognizes_grammar hlex).1 _).mpr ⟨signedStep, rfl, hframes, ?_⟩
  simp only [signedStep, Derivation.tree, Derivation.tree_lower]
  rfl

/-! ## Frames without brackets

A step operator behind its operand is bound inside of the one behind it, so a row of them takes two frames
for each: the call stack runs out although there are no brackets at all. -/

/-- The derivation of `a` with `n` step operators behind it. -/
def steps : Nat → Derivation 11
  | 0 => .tighter (by decide) (.name 0 "a")
  | n + 1 => .postfixed (steps n) (2 * n + 1) .increment rfl

/-- The name `a` with `n` step operators behind it. -/
def stepsText (n : Nat) : String := String.ofList ('a' :: List.replicate (2 * n) '+')

/-- The tokens of `n` step operators. -/
def stepTokens (pos : Nat) : Nat → List Token
  | 0 => []
  | n + 1 => .operator pos .increment :: stepTokens (pos + 2) n

theorem stepTokens_succ (pos n : Nat) :
    stepTokens pos (n + 1) = stepTokens pos n ++ [.operator (pos + 2 * n) .increment] := by
  induction n generalizing pos with
  | zero => rfl
  | succ n ih =>
      have hpos : pos + 2 + 2 * n = pos + 2 * (n + 1) := by omega
      rw [stepTokens, ih, stepTokens, List.cons_append, hpos]

theorem yield_steps (n : Nat) : (steps n).yield = .name 0 "a" :: stepTokens 1 n := by
  induction n with
  | zero => rfl
  | succ n ih =>
      show (steps n).yield ++ [.operator (2 * n + 1) .increment] = _
      rw [ih, stepTokens_succ, List.cons_append, Nat.add_comm]

theorem lexFrom_steps (n pos : Nat) (previous : Option Token) :
    Token.lexFrom pos previous (List.replicate (2 * n) '+') = .ok (stepTokens pos n) := by
  induction n generalizing pos previous with
  | zero => rw [Nat.mul_zero, List.replicate_zero, Token.lexFrom, stepTokens]
  | succ n ih =>
      have hchars : List.replicate (2 * (n + 1)) '+'
          = Operator.increment.symbolChars ++ List.replicate (2 * n) '+' := rfl
      rw [hchars, Token.lexFrom_symbol pos previous _ (fun a ha => by cases ha) (fun a ha => by cases ha), ih]
      rfl

theorem lex_stepsText (n : Nat) : Token.lex (stepsText n) = .ok (steps n).yield := by
  have hends : Token.Ends (List.replicate (2 * n) '+') := by
    cases n with
    | zero => exact Token.ends_nil
    | succ n => exact Token.ends_cons (by decide) _
  have hident : Token.isIdentifier ['a'] = true := by decide
  have hword := Token.lexFrom_word 0 none _ (List.cons_ne_nil _ _)
    (fun c hc => ((Token.isIdentifier_cons_iff.mp hident).2 c hc).1) hends
    (Token.ofWord_identifier hident 0)
  rw [lexFrom_steps] at hword
  rw [Token.lex_eq_ok_iff, stepsText, String.toList_ofList, yield_steps]
  exact hword

theorem cost_steps (n : Nat) : (steps (n + 1)).cost = ⟨0, 1, 2 * n + 4, .unary⟩ := by
  induction n with
  | zero => rfl
  | succ n ih =>
      show (steps (n + 1)).cost.unary = _
      rw [ih]
      rfl

/-- **A row of step operators takes two frames for each**, and no brackets. -/
theorem parse_stepsText [CallStack] (n : Nat) :
    ∃ d : Derivation 1, Token.lex (stepsText (n + 1)) = .ok d.yield ∧ bracketDepth d.yield = 0
      ∧ parse (stepsText (n + 1))
        = CallStack.within (2 * n + 6) (.rejected ⟨.nestedTooDeeply, some (stepsText (n + 1)), []⟩)
            (.ok d.tree) := by
  have hlex := lex_stepsText (n + 1)
  refine ⟨(steps (n + 1)).lower 1 (by decide) (by decide), ?_, ?_, ?_⟩
  · rw [Derivation.yield_lower]
    exact hlex
  · rw [Derivation.bracketDepth_yield, Derivation.cost_lower, cost_steps]
  · rw [← Derivation.yield_lower (show 1 ≤ 11 by decide) (by decide) (steps (n + 1))] at hlex
    have hframes : ((steps (n + 1)).lower 1 (by decide) (by decide)).frames = 2 * n + 6 := by
      rw [Derivation.frames, Derivation.cost_lower, cost_steps, Cost.frames, if_neg (by simp)]
      dsimp only
      omega
    rw [parse_of_derivation hlex, hframes]

/-- Six hundred step operators behind a name are a condition of the grammar, without brackets, that is
    refused as nested too deeply. -/
theorem steps_refused :
    ∃ d : Derivation 1, Token.lex (stepsText 600) = .ok d.yield ∧ bracketDepth d.yield = 0
      ∧ parse (stepsText 600) = .error (.rejected ⟨.nestedTooDeeply, some (stepsText 600), []⟩) := by
  obtain ⟨d, hlex, hdepth, hparse⟩ := parse_stepsText 599
  exact ⟨d, hlex, hdepth, hparse.trans (if_pos (by decide))⟩

end Expr

end HashIf
