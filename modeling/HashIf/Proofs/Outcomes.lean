import HashIf.Proofs.Balance
import HashIf.Proofs.LexFaults
import HashIf.Proofs.ResolvedTrees

/-!
# `HashIf.Proofs.Outcomes`: what parsing a text can come to

A text has a tree in which every operator is bound, or it is refused by the stage that it does not pass: the
lexer, the matching of brackets or the binding of operators.  Nothing else happens.  In particular no group
is left over when all operators are bound, and whatever the parser looks up on its way is there: the last
token where a bracket is not closed, the item at the index of a root, and an operator to blame for an operand
that is missing.

## Contents
- `hasGroup_of_resolve`, `resolveTokens_stage`: no group is left, and faults of binding are of one stage.
- `resolveTokens_cases`: what becomes of tokens.
- `RootLookups`, `rootLookups_of_rootOf`: what is looked up when the root of a list is bound.
- `Outcome`, `outcome_of_parse`: the outcomes of parsing a text.
- `parse_outcome`: there are no others, and nothing that is looked up is missing.
-/

namespace HashIf.Expr

open Token

/-! ## Binding operators -/

theorem unbound_ofItems {items : List Expr} (hu : ∀ x ∈ items, Unbound x) : Unbound (ofItems items) := by
  match items with
  | [] => exact .group _ hu
  | [x] => exact hu x List.mem_cons_self
  | x :: y :: rest => exact .group _ hu

/-- No group is left when all operators of nested items are bound. -/
theorem hasGroup_of_resolve {ts : List Token} {items : List Expr} {e : Expr} (hn : Nested ts items)
    (h : resolve (detectCalls (ofItems items)) = .ok e) : e.hasGroup = false := by
  -- A tree that comes out of the resolver is that of a derivation.
  have hbinds := (resolve_ofItems_eq_ok_iff hn.unbound).mp h
  obtain ⟨d, -, rfl⟩ := derivation_of_binds hbinds rfl hn
  exact d.hasGroup_tree

/-- **Tokens with matching brackets are refused by the resolution stage only.** -/
theorem resolveTokens_stage [CallStack] {ts : List Token} {nested : Expr} {f : LocatedFault}
    (hnested : ofTokens ts = .ok nested) (h : resolveTokens ts = .error f) :
    f.fault.stage = .resolution := by
  obtain ⟨items, hn, rfl⟩ := ofTokens_eq_ok_iff.mp hnested
  unfold resolveTokens at h
  simp only [hnested] at h
  rcases CallStack.within_eq_error h with rfl | h
  · rfl
  · unfold bindNested at h
    split at h
    · rename_i g hres
      cases h
      exact resolve_stage (detectCalls_unbound (unbound_ofItems hn.unbound)) hres
    · rename_i e hres
      rw [hasGroup_of_resolve hn hres] at h
      cases h

/-- **What becomes of tokens**: their brackets do not match; or they have a derivation, with enough frames
    for it, and its tree; or they are refused by the resolution stage. -/
theorem resolveTokens_cases [S : CallStack] (ts : List Token) :
    (∃ fault k, Imbalance ts fault k ∧ resolveTokens ts = .error ⟨fault, some (k : Int)⟩)
      ∨ Balanced ts ∧ ((∃ d : Derivation 1, d.yield = ts ∧ d.frames ≤ S.frames
          ∧ resolveTokens ts = .ok d.tree)
        ∨ (¬ ∃ d : Derivation 1, d.yield = ts ∧ d.frames ≤ S.frames)
          ∧ ∃ f, resolveTokens ts = .error f ∧ f.fault.stage = .resolution) := by
  rcases ofTokens_cases ts with ⟨hbalanced, nested, hnested⟩ | ⟨fault, k, himbalance, herror⟩
  · refine .inr ⟨hbalanced, ?_⟩
    cases hres : resolveTokens ts with
    | ok e =>
        obtain ⟨d, hyield, hframes, rfl⟩ := resolveTokens_eq_ok_iff.mp hres
        exact .inl ⟨d, hyield, hframes, rfl⟩
    | error f =>
        refine .inr ⟨?_, f, rfl, resolveTokens_stage hnested hres⟩
        rintro ⟨d, hyield, hframes⟩
        rw [resolveTokens_eq_ok_iff.mpr ⟨d, hyield, hframes, rfl⟩] at hres
        cases hres
  · refine .inl ⟨fault, k, himbalance, ?_⟩
    unfold resolveTokens
    simp only [herror]

/-! ## Look-ups -/

/-- What is looked up in a list when its root is bound. -/
structure RootLookups (items : List Expr) (root : Root) : Prop where
  /-- The item at the index of the root is its operator. -/
  item : ∃ x, items[root.index]? = some x ∧ x.operator? = some root.op ∧ x.pos = root.pos
  /-- A binary root is among the operators that the list is cut at, and all of these are binary. -/
  links : root.op.isUnary = false → (splitAtLevel root.op.precedence items).2 ≠ []
    ∧ ∀ l ∈ (splitAtLevel root.op.precedence items).2, l.op.isUnary = false
  /-- If there is no operator to blame, no operand is missing. -/
  blamed : root.op.isUnary = false →
    emptySide? (splitAtLevel root.op.precedence items).1 (splitAtLevel root.op.precedence items).2 = none →
    (splitAtLevel root.op.precedence items).1 ≠ []
      ∧ ∀ l ∈ (splitAtLevel root.op.precedence items).2, l.items ≠ []

/-- Where a cut was made and there is no operator to blame, no operand is missing. -/
theorem ne_nil_of_emptySide?_eq_none {first : List Expr} {links : List Link} (hne : links ≠ [])
    (h : emptySide? first links = none) : first ≠ [] ∧ ∀ l ∈ links, l.items ≠ [] := by
  unfold emptySide? at h
  split at h
  · exact absurd (List.head?_eq_none_iff.mp h) hne
  · rename_i hfirst
    refine ⟨fun hnil => hfirst (List.isEmpty_iff.mpr hnil), fun l hl hempty => ?_⟩
    exact List.find?_eq_none.mp h l hl (List.isEmpty_iff.mpr hempty)

/-- **Whatever is looked up when a root is bound is there**, in every list that has a root. -/
theorem rootLookups_of_rootOf {items : List Expr} {root : Root} (h : rootOf items = some root) :
    RootLookups items root := by
  rcases rootOf_cases items with ⟨-, hnone⟩ | ⟨before, x, after, op, rfl, hx, -, ha, hroot⟩
  · rw [hnone] at h
    cases h
  · rw [hroot] at h
    cases h
    have hcut : (splitAtLevel op.precedence (before ++ x :: after)).2 ≠ [] := by
      rw [splitAtLevel_append_cons before hx rfl ha]
      exact List.append_ne_nil_of_right_ne_nil _ (List.cons_ne_nil _ _)
    refine ⟨⟨x, ?_, hx, rfl⟩, fun hbinary => ⟨hcut, fun l hl => ?_⟩,
      fun _ => ne_nil_of_emptySide?_eq_none hcut⟩
    · rw [List.getElem?_append_right (Nat.le_refl _), Nat.sub_self]
      rfl
    · -- No level has both kinds of operators.
      rw [Bool.eq_false_iff]
      intro hunary
      have hlevel := precedence_of_mem_splitAtLevel hl
      have h11 := Operator.isUnary_iff.mp hunary
      have h10 := Operator.precedence_of_binary hbinary
      omega

/-! ## Outcomes -/

/-- The outcomes of parsing a text, each with what it takes. -/
inductive Outcome [S : CallStack] (text : String) : Except Failure Expr → Prop where
  /-- The text has no tokens. -/
  | lexical {r : Rejection} (hlex : Token.lex text = .error (.rejected r))
      (hstage : r.fault.stage = .lexical) (hshown : r.condition = some text) :
      Outcome text (.error (.rejected r))
  /-- The text has no tokens because of an integer that has too many digits. -/
  | numeralTooLong {n : Nat} (hlex : Token.lex text = .error (.numeralTooLong n))
      (hlong : MeetsLongInteger n text) : Outcome text (.error (.numeralTooLong n))
  /-- The brackets of the tokens do not match. -/
  | structural {tokens : List Token} {fault : Fault} {k : Nat} (hlex : Token.lex text = .ok tokens)
      (hbrackets : ¬ Balanced tokens) (hfault : Imbalance tokens fault k)
      (hstage : fault.stage = .structural) : Outcome text (.error (.rejected ⟨fault, some text, [k]⟩))
  /-- The brackets match, but the tokens have no derivation, or there are not enough frames for it. -/
  | resolution {tokens : List Token} {r : Rejection} (hlex : Token.lex text = .ok tokens)
      (hbrackets : Balanced tokens)
      (hnone : ¬ ∃ d : Derivation 1, d.yield = tokens ∧ d.frames ≤ S.frames)
      (hstage : r.fault.stage = .resolution) (hshown : r.condition = some text) :
      Outcome text (.error (.rejected r))
  /-- The tokens have a derivation; in its tree every operator is bound, and no group is left. -/
  | tree {d : Derivation 1} (hlex : Token.lex text = .ok d.yield) (hbrackets : Balanced d.yield)
      (hframes : d.frames ≤ S.frames) (hbound : d.tree.Bound) : Outcome text (.ok d.tree)

/-- A text without tokens has no tree. -/
theorem parse_of_lex_error [CallStack] {text : String} {f : Failure} (h : Token.lex text = .error f) :
    parse text = .error f := by
  unfold parse
  rw [h]

/-- **Every text has one of the outcomes.** -/
theorem outcome_of_parse [CallStack] (text : String) : Outcome text (parse text) := by
  cases hlex : Token.lex text with
  | error f =>
      rw [parse_of_lex_error hlex]
      rcases lex_eq_error hlex with ⟨r, rfl, hstage, hshown⟩ | ⟨n, rfl, hlong⟩
      · exact .lexical hlex hstage hshown
      · exact .numeralTooLong hlex hlong
  | ok tokens =>
      rw [parse_of_lex hlex]
      rcases resolveTokens_cases tokens with
        ⟨fault, k, himbalance, hres⟩ | ⟨hbalanced, ⟨d, rfl, hframes, hres⟩ | ⟨hnone, f, hres, hstage⟩⟩
      · rw [hres]
        exact .structural hlex himbalance.not_balanced himbalance himbalance.stage
      · rw [hres]
        exact .tree hlex hbalanced hframes d.bound_tree
      · rw [hres]
        exact .resolution hlex hbalanced hnone hstage rfl

/-- **Parsing has only the intended outcomes**, for every text: a tree with all operators bound and no group
    left, a fault of the first stage that the text does not pass, or the refusal of a long integer.  Whatever
    is looked up on the way is there. -/
theorem parse_outcome [CallStack] (text : String) :
    Outcome text (parse text)
      ∧ (∀ items root, rootOf items = some root → RootLookups items root)
      ∧ ∀ items pos, 2 ≤ items.length → rootOf items = none →
          ∃ x, items[1]? = some x ∧ resolveItems items pos = .error ⟨.noOperator, x.pos⟩ := by
  refine ⟨outcome_of_parse text, ?_, ?_⟩
  · intro items root hroot
    exact rootLookups_of_rootOf hroot
  · intro items pos h2 hroot
    exact resolveItems_of_no_root h2 hroot pos

/-- The brackets of the text match and its operators do not bind: the first `&&` has nothing in front. -/
theorem parse_outcome_missingSide :
    Outcome "(&& !b && c)" (.error (.rejected ⟨.missingSide, some "(&& !b && c)", [1]⟩))
      ∧ RootLookups [.mark .boolAnd (some 1), .mark .boolNot (some 4), .var "b" (some 5),
          .mark .boolAnd (some 7), .var "c" (some 10)] ⟨3, .boolAnd, some 7⟩
      ∧ resolveItems [.var "b" (some 5), .var "c" (some 10)] none = .error ⟨.noOperator, some 10⟩ := by
  have hparse : parse "(&& !b && c)" = .error (.rejected ⟨.missingSide, some "(&& !b && c)", [1]⟩) := by
    cbv
  obtain ⟨houtcome, hlookups, hsecond⟩ := parse_outcome "(&& !b && c)"
  rw [hparse] at houtcome
  obtain ⟨x, hx, hres⟩ := hsecond [.var "b" (some 5), .var "c" (some 10)] none (by decide) rfl
  cases hx
  exact ⟨houtcome, hlookups _ _ rfl, hres⟩

end HashIf.Expr
