import HashIf.Condition.Interpret
import HashIf.Proofs.Parsing
import HashIf.Proofs.Rendering
import HashIf.Proofs.Spelling

/-!
# `HashIf.Proofs.RoundTrip`: the text of a formula is read as the formula

A formula made of identifiers, numbers and operators has a text, and the extended reading of that text is
the formula again, down to the kind of every operator; only the constants come back as literals.  The
proof follows the formula: each way of writing it is a way of putting texts together.

## Contents
- `Writable`: the formulas that have a text which can be read.
- `literalConstants`: what becomes of the constants.
- `operand_spells`, `spelled_joint`: operands with or without brackets.
- `Writable.spelled`: the text of a formula, with its level and its cost.
- `extendedFormula_of_derivation`: reading a text with a derivation.
- `Writable.covered`, `Writable.readFrames_le`: the frames of a formula, by the brackets of its text.
- `extendedFormula_toText_writable`: reading the text of a formula.
- `ladder`: formulas that need many frames.
-/

namespace HashIf

open Token Condition

namespace Formula

/-! ## Formulas with a text -/

/-- The formulas that have a text which can be read: names are identifiers, literals are texts of
    numbers, possibly with a minus, kept operators are binary and no connectives, and no call is one of a
    known test.  Without the tests of the Linux build this leaves out `defined` only. -/
inductive Writable (linux : Bool) : Formula → Prop where
  | const (b : Bool) : Writable linux (const b)
  | var {name : String} (h : isIdentifier name.toList = true) : Writable linux (var name)
  | lit {v : Number} (h : v.Readable) : Writable linux (lit v.plain)
  | negative {v : Number} (h : v.Readable) : Writable linux (lit ("-" ++ v.plain))
  | not {f : Formula} (h : Writable linux f) : Writable linux (not f)
  | and {l r : Formula} (hl : Writable linux l) (hr : Writable linux r) : Writable linux (and l r)
  | or {l r : Formula} (hl : Writable linux l) (hr : Writable linux r) : Writable linux (or l r)
  | kept {op : Operator} {l r : Formula} (hop : op.isUnary = false) (hconn : op.isConnective = false)
      (hl : Writable linux l) (hr : Writable linux r) : Writable linux (kept op l r)
  | emptyCall {name : String} (h : isIdentifier name.toList = true)
      (htest : ConfigTest.ofName? linux name = none) : Writable linux (emptyCall name)
  | call {name : String} {f : Formula} (h : isIdentifier name.toList = true)
      (htest : ConfigTest.ofName? linux name = none) (hf : Writable linux f) :
      Writable linux (call name f)

theorem Writable.kept_binary {linux : Bool} {f : Formula} (h : f.Writable linux) {op : Operator}
    {l r : Formula} (hf : f = Formula.kept op l r) : op.isUnary = false := by
  subst hf
  cases h with
  | kept hop => exact hop

/-- The formula with `1` and `0` in the place of the constants. -/
def literalConstants : Formula → Formula
  | const b => lit (if b then "1" else "0")
  | not f => not f.literalConstants
  | and l r => and l.literalConstants r.literalConstants
  | or l r => or l.literalConstants r.literalConstants
  | kept op l r => kept op l.literalConstants r.literalConstants
  | call s f => call s f.literalConstants
  | f => f

theorem one_le_level (f : Formula) : 1 ≤ f.level := by
  cases f with
  | kept op l r => exact op.precedence_pos
  | lit text =>
      simp only [level]
      split <;> omega
  | _ => exact of_decide_eq_true rfl

theorem level_le (f : Formula) : f.level ≤ 12 := by
  cases f with
  | kept op l r => exact Nat.le_succ_of_le op.precedence_le
  | lit text =>
      simp only [level]
      split <;> omega
  | _ => exact of_decide_eq_true rfl

/-- The text of a number is an atom. -/
theorem level_plain {v : Number} (h : v.Readable) : (lit v.plain).level = 12 := if_neg (head?_plain_ne h)

theorem level_negative (v : Number) : (lit ("-" ++ v.plain)).level = 11 := if_pos (head?_negative v)

theorem cost_plain {v : Number} (h : v.Readable) : (lit v.plain).cost = .atom := if_neg (head?_plain_ne h)

theorem cost_negative (v : Number) : (lit ("-" ++ v.plain)).cost = Cost.atom.unary :=
  if_pos (head?_negative v)

/-- A binary formula stands at the level of its operator. -/
theorem level_joinKept (op : Operator) (l r : Formula) : (joinKept op l r).level = op.precedence := by
  cases op <;> rfl

theorem cost_joinKept (op : Operator) (l r : Formula) :
    (joinKept op l r).cost = cost.joinCost op l l.cost r r.cost := by
  cases op <;> rfl

/-- The literals in the place of constants need no more frames. -/
theorem readFrames_literalConstants (f : Formula) : f.literalConstants.readFrames = f.readFrames := by
  have hedge : ∀ (g : Formula) (n : Nat), g.literalConstants.edgeFrames n = g.edgeFrames n := by
    intro g n
    cases g <;> rfl
  induction f with
  | const b => cases b <;> rfl
  | not f ih => simp only [literalConstants, readFrames, ih]
  | call s f ih => simp only [literalConstants, readFrames, ih]
  | and l r ihl ihr => simp only [literalConstants, readFrames, hedge, ihl, ihr]
  | or l r ihl ihr => simp only [literalConstants, readFrames, hedge, ihl, ihr]
  | kept op l r ihl ihr => simp only [literalConstants, readFrames, hedge, ihl, ihr]
  | _ => rfl

/-! ## Spelling a formula -/

/-- The formula has a text that spells it, at its own level and with its own cost. -/
def Spelled (linux : Bool) (f : Formula) : Prop :=
  ∃ s, f.toText = .ok s ∧ Spells linux f.level s.toList f.cost f.literalConstants

/-- **An operand is spelled at the level that its place asks for**, with brackets if it stands below. -/
theorem operand_spells {linux : Bool} {f : Formula} {s : String}
    (h : Spells linux f.level s.toList f.cost f.literalConstants) {m : Nat} (hm : m ≤ 12) :
    Spells linux m (operandText m f s).toList (operandCost m f f.cost) f.literalConstants := by
  rw [toList_operandText]
  unfold operandCost
  split
  · exact (h.lower f.one_le_level f.level_le).brackets.lower hm (le_refl 12)
  · rename_i hlt
    exact h.lower (Nat.not_lt.mp hlt) f.level_le

/-- **Operands that are spelled make a binary formula that is spelled.** -/
theorem spelled_joint {linux : Bool} {f l r : Formula} {op : Operator} (hop : op.isUnary = false)
    (hjoint : joint? f = some (l, ⟨op.symbol, op.precedence, r⟩)) (hl : Spelled linux l)
    (hr : Spelled linux r) :
    ∃ s, f.toText = .ok s
      ∧ Spells linux op.precedence s.toList (cost.joinCost op l l.cost r r.cost)
        (joinKept op l.literalConstants r.literalConstants) := by
  obtain ⟨s, hs, hspells⟩ := hl
  obtain ⟨s', hs', hspells'⟩ := hr
  have hprec := Operator.precedence_of_binary hop
  have hjoin := (operand_spells hspells (show op.precedence ≤ 12 by omega)).join hop
    (operand_spells hspells' (show op.precedence + 1 ≤ 12 by omega))
  obtain ⟨t, ht, htext⟩ := toText_joint hop hjoint hs hs'
  refine ⟨t, ht, ?_⟩
  rw [htext]
  exact hjoin

/-- **The text of a formula spells it.** -/
theorem Writable.spelled {linux : Bool} {f : Formula} (h : f.Writable linux) : Spelled linux f := by
  induction h with
  | const b =>
      -- A constant is written as a numeral, and the numeral is what is read back.
      have hone : Number.Readable (.int 1) := ⟨['1'], rfl⟩
      have hzero : Number.Readable (.int 0) := ⟨['0'], rfl⟩
      refine ⟨if b then "1" else "0", by rw [toText], ?_⟩
      cases b with
      | true => exact Spells.number hone
      | false => exact Spells.number hzero
  | @var name h => exact ⟨name, by rw [toText], Spells.name h⟩
  | @lit v h =>
      refine ⟨v.plain, by rw [toText], ?_⟩
      rw [level_plain h, cost_plain h]
      exact Spells.number h
  | @negative v h =>
      refine ⟨"-" ++ v.plain, by rw [toText], ?_⟩
      rw [level_negative, cost_negative, String.toList_append]
      exact Spells.negative h
  | @not f hf ih =>
      obtain ⟨s, hs, hspells⟩ := ih
      obtain ⟨t, ht, htext⟩ := toText_not (fun op l r => hf.kept_binary) hs
      refine ⟨t, ht, ?_⟩
      rw [htext]
      exact (operand_spells hspells (le_refl 12)).not
  | and _ _ ihl ihr => exact @spelled_joint _ _ _ _ .boolAnd rfl rfl ihl ihr
  | or _ _ ihl ihr => exact @spelled_joint _ _ _ _ .boolOr rfl rfl ihl ihr
  | @kept op l r hop hconn _ _ ihl ihr =>
      obtain ⟨s, hs, hspells⟩ := @spelled_joint _ (Formula.kept op l r) _ _ op hop rfl ihl ihr
      have hjoin : joinKept op l.literalConstants r.literalConstants
          = (Formula.kept op l r).literalConstants := by
        cases op with
        | boolAnd | boolOr => cases hconn
        | _ => rfl
      rw [hjoin] at hspells
      exact ⟨s, hs, hspells⟩
  | @emptyCall name h htest =>
      refine ⟨name ++ "()", by rw [toText], ?_⟩
      rw [String.toList_append]
      exact Spells.emptyCall h htest
  | @call name f h htest hf ih =>
      obtain ⟨s, hs, hspells⟩ := ih
      obtain ⟨t, ht, htext⟩ := toText_call name hs
      refine ⟨t, ht, ?_⟩
      rw [htext]
      exact Spells.call h htest (hspells.lower f.one_le_level f.level_le)

/-! ## Frames by brackets -/

/-- An operand is covered at the level that its place asks for. -/
theorem operand_covered {f : Formula} (h : f.cost.Covered f.level 0) {m : Nat} (hm : m ≤ 12) :
    (f.operandCost m f.cost).Covered m 0 := by
  unfold operandCost
  split
  · exact (h.mono f.one_le_level (Nat.le_refl 0)).brackets.mono hm (Nat.le_refl 0)
  · rename_i hlevel
    exact h.mono (Nat.not_lt.mp hlevel) (Nat.le_refl 0)

theorem covered_joint {l r : Formula} {op : Operator} (hop : op.isUnary = false)
    (hl : l.cost.Covered l.level 0) (hr : r.cost.Covered r.level 0) :
    (cost.joinCost op l l.cost r r.cost).Covered op.precedence 0 := by
  have hprec := Operator.precedence_of_binary hop
  exact (operand_covered hl (by omega)).join hprec (operand_covered hr (by omega))

/-- **Brackets bound the frames that the text of a formula takes in the parser**: there are no step operators
    in it. -/
theorem Writable.covered {linux : Bool} {f : Formula} (h : f.Writable linux) :
    f.cost.Covered f.level 0 := by
  induction h with
  | const | var => exact .atom 0
  | lit h =>
      rw [cost_plain h, level_plain h]
      exact .atom 0
  | @negative v h =>
      rw [cost_negative, level_negative]
      exact (Cost.Covered.atom 0).unary
  | not _ ih => exact (operand_covered ih (Nat.le_refl 12)).unary
  | and _ _ ihl ihr => exact @covered_joint _ _ .boolAnd rfl ihl ihr
  | or _ _ ihl ihr => exact @covered_joint _ _ .boolOr rfl ihl ihr
  | kept hop _ _ _ ihl ihr => exact covered_joint hop ihl ihr
  | emptyCall => exact .emptyCall 0
  | @call _ f _ _ _ ih => exact (ih.mono f.one_le_level (Nat.le_refl 0)).call

/-- An operand in brackets starts again at the loosest level. -/
theorem operand_readFrames_le {f : Formula} (h : f.readFrames + 3 * f.level ≤ 35 * f.cost.nesting + 37)
    {m : Nat} (hm : m ≤ 12) :
    f.readFrames + 3 * m ≤ 35 * (f.operandCost m f.cost).nesting + 37 := by
  have hone := f.one_le_level
  unfold operandCost
  split
  · show f.readFrames + 3 * m ≤ 35 * (f.cost.nesting + 1) + 37
    omega
  · omega

/-- A first operand that starts a loop is tighter than every binary operator. -/
theorem edgeFrames_cases (f : Formula) (n : Nat) :
    f.edgeFrames n = n ∨ f.edgeFrames n = 3 + n ∧ 11 ≤ f.level := by
  cases f with
  | and | or | kept => exact .inl rfl
  | not => exact .inr ⟨rfl, Nat.le_refl 11⟩
  | lit text =>
      refine .inr ⟨rfl, ?_⟩
      simp only [level]
      split <;> decide
  | const | var | emptyCall | call | unknown => exact .inr ⟨rfl, Nat.le_succ 11⟩

theorem edge_readFrames_le {f : Formula} (h : f.readFrames + 3 * f.level ≤ 35 * f.cost.nesting + 37)
    {m : Nat} (hm : m ≤ 10) :
    f.edgeFrames f.readFrames + 3 * m ≤ 35 * (f.operandCost m f.cost).nesting + 37 := by
  rcases f.edgeFrames_cases f.readFrames with hedge | ⟨hedge, hlevel⟩
  · rw [hedge]
    exact operand_readFrames_le h (by omega)
  · rw [hedge, operandCost, if_neg (by omega)]
    omega

theorem readFrames_joint_le {l r : Formula} {op : Operator} (hop : op.isUnary = false)
    (hl : l.readFrames + 3 * l.level ≤ 35 * l.cost.nesting + 37)
    (hr : r.readFrames + 3 * r.level ≤ 35 * r.cost.nesting + 37) :
    max (l.edgeFrames l.readFrames) (3 + r.readFrames) + 3 * op.precedence
      ≤ 35 * (cost.joinCost op l l.cost r r.cost).nesting + 37 := by
  have hprec := Operator.precedence_of_binary hop
  have hleft := edge_readFrames_le hl hprec
  have hright := operand_readFrames_le hr (show op.precedence + 1 ≤ 12 by omega)
  show _ ≤ 35 * max (l.operandCost op.precedence l.cost).nesting
    (r.operandCost (op.precedence + 1) r.cost).nesting + 37
  omega

/-- **Brackets bound the frames that the text of a formula takes behind the parser.** -/
theorem Writable.readFrames_le {linux : Bool} {f : Formula} (h : f.Writable linux) :
    f.readFrames + 3 * f.level ≤ 35 * f.cost.nesting + 37 := by
  induction h with
  | const | var => exact show 37 ≤ 37 by decide
  | lit h =>
      rw [cost_plain h, level_plain h, readFrames, if_neg (head?_plain_ne h)]
      decide
  | @negative v h =>
      rw [cost_negative, level_negative, readFrames, if_pos (head?_negative v)]
      decide
  | @not f _ ih =>
      have hoperand := operand_readFrames_le ih (Nat.le_refl 12)
      show 2 + f.readFrames + 33 ≤ 35 * (f.operandCost 12 f.cost).nesting + 37
      omega
  | and _ _ ihl ihr => exact @readFrames_joint_le _ _ .boolAnd rfl ihl ihr
  | or _ _ ihl ihr => exact @readFrames_joint_le _ _ .boolOr rfl ihl ihr
  | kept hop _ _ _ ihl ihr => exact readFrames_joint_le hop ihl ihr
  | emptyCall => exact show 38 ≤ 72 by decide
  | @call _ f _ _ _ ih =>
      have hone := f.one_le_level
      show 2 + f.readFrames + 36 ≤ 35 * (f.cost.nesting + 1) + 37
      omega

/-- What is enough for the text of a formula in the parser and behind it, by its brackets. -/
theorem Writable.frames_le {linux : Bool} {f : Formula} (h : f.Writable linux) :
    f.cost.frames ≤ 35 * f.cost.nesting + 34 ∧ f.readFrames ≤ 35 * f.cost.nesting + 34 := by
  have hparser := (h.covered.mono f.one_le_level (Nat.le_refl 0)).frames_le
  have hbehind := h.readFrames_le
  have hone := f.one_le_level
  constructor <;> omega

end Formula

/-! ## Reading the text of a formula -/

namespace Condition

/-- **A text with a derivation is read as its tree is**, unless the call stack runs out, in the parser or
    behind it. -/
theorem extendedFormula_of_derivation [CallStack] (linux : Bool) {text : String} {d : Derivation 1}
    (hlex : Token.lex text = .ok d.yield) :
    extendedFormula linux text
      = CallStack.within d.frames (.rejected ⟨.nestedTooDeeply, some text, []⟩)
          (CallStack.within (extendedFrames linux d.tree) (.rejected ⟨.conditionTooDeep, some text, []⟩)
            (shownIn (some text) (extended linux d.tree))) := by
  rw [extendedFormula, Expr.parse_of_derivation hlex]
  by_cases h : CallStack.frames < d.frames
  · simp only [CallStack.within, if_pos h]
  · simp only [CallStack.within, if_neg h]
    rfl

/-- The text of a formula has a derivation with the cost and the frames of the formula. -/
theorem exists_derivation_of_toText {linux : Bool} {f : Formula} (hf : f.Writable linux) :
    ∃ (s : String) (d : Derivation 1), f.toText = .ok s ∧ Token.lex s = .ok d.yield
      ∧ d.cost = f.cost ∧ extendedFrames linux d.tree = f.readFrames
      ∧ extended linux d.tree = .ok f.literalConstants := by
  obtain ⟨s, hs, hspells⟩ := hf.spelled
  obtain ⟨d, hcost, hread, hlex⟩ := (hspells.lower f.one_le_level f.level_le).lex
  rw [String.ofList_toList] at hlex
  refine ⟨s, d, hs, hlex, hcost, ?_, hread.extended_eq⟩
  rw [hread.frames_eq, f.readFrames_literalConstants]

/-- **Reading the text of a formula**: what becomes of it on any call stack. -/
theorem extendedFormula_toText {linux : Bool} {f : Formula} (hf : f.Writable linux) :
    ∃ (s : String) (tokens : List Token), f.toText = .ok s ∧ Token.lex s = .ok tokens
      ∧ Expr.bracketDepth tokens = f.cost.nesting
      ∧ ∀ [S : CallStack],
          (f.cost.frames ≤ S.frames → f.readFrames ≤ S.frames →
            extendedFormula linux s = .ok f.literalConstants)
          ∧ (S.frames < f.cost.frames →
            extendedFormula linux s = .error (.rejected ⟨.nestedTooDeeply, some s, []⟩))
          ∧ (f.cost.frames ≤ S.frames → S.frames < f.readFrames →
            extendedFormula linux s = .error (.rejected ⟨.conditionTooDeep, some s, []⟩)) := by
  obtain ⟨s, d, hs, hlex, hcost, hread, hf⟩ := exists_derivation_of_toText hf
  refine ⟨s, d.yield, hs, hlex, by rw [d.bracketDepth_yield, hcost], ?_⟩
  intro S
  have hformula := extendedFormula_of_derivation linux hlex
  rw [Derivation.frames, hcost, hread, hf] at hformula
  refine ⟨fun hframes hbehind => ?_, fun hframes => ?_, fun hframes hbehind => ?_⟩
  · rw [hformula, CallStack.within_eq_ok_iff, CallStack.within_eq_ok_iff]
    exact ⟨hframes, hbehind, rfl⟩
  · exact hformula.trans (if_pos hframes)
  · exact hformula.trans ((if_neg (Nat.not_lt.mpr hframes)).trans (if_pos hbehind))

/-- **The text of a formula is read as the formula, as far as the call stack reaches.**  Every formula made
    of constants, variables, literals, connectives, kept operators and calls has a text, and the text has
    tokens.  If the stack has room for the frames that the text needs in the parser and behind it, the
    extended reading is the formula, with literals for the constants.  Else the text is refused as nested
    too deeply, by the stage that runs out of frames.  Thirty-five frames for each nested bracket and
    thirty-four more are always enough; for 27 nested brackets this is less than 980. -/
theorem extendedFormula_toText_writable [S : CallStack] {f : Formula} (hf : f.Writable false) :
    ∃ (s : String) (tokens : List Token), f.toText = .ok s ∧ Token.lex s = .ok tokens
      ∧ Expr.bracketDepth tokens = f.cost.nesting
      ∧ (35 * Expr.bracketDepth tokens + 34 ≤ S.frames →
          extendedFormula false s = .ok f.literalConstants)
      ∧ (f.cost.frames ≤ S.frames → f.readFrames ≤ S.frames →
          extendedFormula false s = .ok f.literalConstants)
      ∧ (S.frames < f.cost.frames →
          extendedFormula false s = .error (.rejected ⟨.nestedTooDeeply, some s, []⟩))
      ∧ (f.cost.frames ≤ S.frames → S.frames < f.readFrames →
          extendedFormula false s = .error (.rejected ⟨.conditionTooDeep, some s, []⟩)) := by
  obtain ⟨s, tokens, hs, hlex, hdepth, hformula⟩ := extendedFormula_toText hf
  refine ⟨s, tokens, hs, hlex, hdepth, fun hroom => ?_, hformula⟩
  rw [hdepth] at hroom
  obtain ⟨hparser, hbehind⟩ := hf.frames_le
  exact hformula.1 (Nat.le_trans hparser hroom) (Nat.le_trans hbehind hroom)

/-- The formula of `!(-1) && a - (f(1) - 2)`, with a constant for the argument. -/
def signedDifference : Formula :=
  .and (.not (.lit ("-" ++ Number.plain (.int 1))))
    (.kept .sub (.var "a") (.kept .sub (.call "f" (.const true)) (.lit (Number.plain (.int 2)))))

theorem signedDifference_writable : signedDifference.Writable false := by
  have hone : Number.Readable (.int 1) := ⟨['1'], rfl⟩
  have htwo : Number.Readable (.int 2) := ⟨['2'], rfl⟩
  have ha : isIdentifier "a".toList = true := by decide
  have hf : isIdentifier "f".toList = true := by decide
  have htest : ConfigTest.ofName? false "f" = none := by decide
  exact .and (.not (.negative hone))
    (.kept rfl rfl (.var ha) (.kept rfl rfl (.call hf htest (.const true)) (.lit htwo)))

theorem extendedFormula_toText_writable_signedDifference :
    signedDifference.toText = .ok "!(-1) && a - (f(1) - 2)"
      ∧ extendedFormula false "!(-1) && a - (f(1) - 2)" = .ok signedDifference.literalConstants := by
  have htext : signedDifference.toText = .ok "!(-1) && a - (f(1) - 2)" := by cbv
  obtain ⟨s, -, hs, -, -, -, hread, -⟩ := extendedFormula_toText_writable signedDifference_writable
  rw [htext] at hs
  cases hs
  exact ⟨htext, hread (by decide) (by decide)⟩

/-! ## Frames that brackets do not show

A binary operator inside of the right operand of another one takes two frames in the parser and three behind
it, whether or not there are brackets around it.  So the call stack runs out long before brackets are deep. -/

/-- A binary operator with a variable on its left. -/
def rung (op : Operator) (f : Formula) : Formula := joinKept op (.var "a") f

/-- One operator of each level, the loosest first. -/
def rungs : List Operator :=
  [.boolOr, .boolAnd, .bitOr, .bitXor, .bitAnd, .eq, .lt, .shiftLeft, .add, .mul]

/-- A row with one operator of each level, each one inside of the one before. -/
def row (f : Formula) : Formula := rungs.foldr rung (.not f)

/-- Rows inside of each other. -/
def ladder : Nat → Formula
  | 0 => .var "a"
  | n + 1 => row (ladder n)

theorem rung_writable {op : Operator} {f : Formula} (hop : op.isUnary = false) (hf : f.Writable false) :
    (rung op f).Writable false := by
  have ha : (Formula.var "a").Writable false := .var (by decide)
  cases op
  case boolAnd => exact .and ha hf
  case boolOr => exact .or ha hf
  case boolNot | bitNot | plus | minus | increment | decrement => cases hop
  all_goals exact .kept rfl rfl ha hf

theorem ladder_writable (n : Nat) : (ladder n).Writable false := by
  induction n with
  | zero => exact .var (by decide)
  | succ n ih =>
      have hrow : ∀ ops : List Operator, (∀ op ∈ ops, op.isUnary = false) →
          (ops.foldr rung (.not (ladder n))).Writable false := by
        intro ops hops
        induction ops with
        | nil => exact .not ih
        | cons op ops ihops =>
            obtain ⟨hop, hops⟩ := List.forall_mem_cons.mp hops
            exact rung_writable hop (ihops hops)
      exact hrow rungs (by decide)

/-- In front of a tighter formula, an operator takes two frames in the parser. -/
theorem cost_rung {op : Operator} {f : Formula} (hlevel : op.precedence < f.level)
    (hjoins : 1 ≤ f.cost.joins) (hbinds : 2 ≤ f.cost.binds) :
    (rung op f).cost = ⟨f.cost.nesting, f.cost.joins, f.cost.binds + 2, .chain op.precedence⟩ := by
  have hprec := op.precedence_le
  have hleft : Formula.operandCost op.precedence (.var "a") Cost.atom = .atom :=
    if_neg (Nat.not_lt.mpr (Nat.le_succ_of_le hprec))
  have hright : Formula.operandCost (op.precedence + 1) f f.cost = f.cost :=
    if_neg (Nat.not_lt.mpr hlevel)
  rw [rung, Formula.cost_joinKept, Formula.cost.joinCost, hright]
  show Cost.join _ (Formula.operandCost op.precedence (.var "a") Cost.atom) f.cost = _
  have hshare : max (Cost.atom.chainBinds op.precedence) (f.cost.binds + 2) = f.cost.binds + 2 :=
    Nat.max_eq_right (show 4 ≤ _ by omega)
  rw [hleft, Cost.join, Cost.mk.injEq]
  exact ⟨Nat.zero_max _, Nat.max_eq_right hjoins, hshare, rfl⟩

/-- Operators that get tighter and tighter take two frames each. -/
theorem cost_foldr_rung {f : Formula} (hjoins : 1 ≤ f.cost.joins) (hbinds : 2 ≤ f.cost.binds)
    (op : Operator) (ops : List Operator)
    (htight : List.IsChain (· < ·) ((op :: ops).map Operator.precedence ++ [f.level])) :
    ((op :: ops).foldr rung f).cost
      = ⟨f.cost.nesting, f.cost.joins, f.cost.binds + 2 * (ops.length + 1), .chain op.precedence⟩ := by
  induction ops generalizing op with
  | nil => exact cost_rung (List.isChain_cons_cons.mp htight).1 hjoins hbinds
  | cons op' ops ih =>
      obtain ⟨hlt, htight⟩ := List.isChain_cons_cons.mp htight
      have hinner := ih op' htight
      have hlevel : ((op' :: ops).foldr rung f).level = op'.precedence := Formula.level_joinKept op' _ _
      rw [List.foldr_cons, cost_rung (hlevel ▸ hlt), hinner]
      · simp only [List.length_cons]
        congr 1
      · rw [hinner]
        exact hjoins
      · rw [hinner]
        exact Nat.le_add_right_of_le hbinds

/-- A row takes twenty-two frames in the parser, its brackets apart. -/
theorem cost_row {f : Formula} {c : Cost} (hc : Formula.operandCost 12 f f.cost = c)
    (hjoins : 1 ≤ c.joins) (hbinds : 2 ≤ c.binds) :
    (row f).cost = ⟨c.nesting, c.joins, c.binds + 22, .chain 1⟩ := by
  have hnot : (Formula.not f).cost = c.unary := by
    rw [Formula.cost, hc]
  have htight : List.IsChain (· < ·) (rungs.map Operator.precedence ++ [11]) := by decide
  have hrow := cost_foldr_rung (f := .not f) (by rw [hnot]; exact hjoins)
    (by rw [hnot]; exact Nat.le_add_right_of_le hbinds) .boolOr rungs.tail htight
  rw [hnot] at hrow
  exact hrow

/-- Each row takes twenty-four frames in the parser, those of its brackets included. -/
theorem cost_ladder (n : Nat) :
    (ladder (n + 1)).cost = ⟨n, 2 * n + 1, 24 * (n + 1), .chain 1⟩ := by
  induction n with
  | zero => exact cost_row rfl (by decide) (by decide)
  | succ n ih =>
      have hlevel : (ladder (n + 1)).level < 12 := by
        have hone : (ladder (n + 1)).level = 1 := Formula.level_joinKept .boolOr _ _
        omega
      have hbrackets : Formula.operandCost 12 (ladder (n + 1)) (ladder (n + 1)).cost
          = ⟨n + 1, 2 * n + 3, 24 * (n + 1) + 2, .bare⟩ := by
        rw [Formula.operandCost, if_pos hlevel, ih, Cost.brackets]
      rw [ladder, cost_row hbrackets (Nat.le_add_left _ _) (Nat.le_add_left _ _)]
      rfl

theorem readFrames_foldr_rung {f : Formula} (hf : 1 ≤ f.readFrames) (ops : List Operator) :
    (ops.foldr rung f).readFrames = f.readFrames + 3 * ops.length := by
  induction ops with
  | nil => rfl
  | cons op ops ih =>
      have hrung : ((op :: ops).foldr rung f).readFrames = max (3 + 1) (3 + (ops.foldr rung f).readFrames) := by
        cases op <;> rfl
      rw [hrung, ih, List.length_cons]
      omega

/-- Each row takes thirty-two frames behind the parser. -/
theorem readFrames_ladder (n : Nat) : (ladder n).readFrames = 32 * n + 1 := by
  induction n with
  | zero => rfl
  | succ n ih =>
      rw [ladder, row, readFrames_foldr_rung (Nat.le_add_right_of_le (by decide)), Formula.readFrames, ih]
      simp only [rungs, List.length_cons, List.length_nil]
      omega

/-- A formula whose text nests thirty-five brackets has no reading: the text is parsed, but the call stack
    runs out behind the parser. -/
theorem ladder_refused :
    (ladder 36).Writable false
      ∧ ∃ (s : String) (tokens : List Token), (ladder 36).toText = .ok s ∧ Token.lex s = .ok tokens
        ∧ Expr.bracketDepth tokens = 35
        ∧ extendedFormula false s = .error (.rejected ⟨.conditionTooDeep, some s, []⟩) := by
  obtain ⟨s, tokens, hs, hlex, hdepth, hformula⟩ := extendedFormula_toText (ladder_writable 36)
  rw [cost_ladder 35] at hdepth hformula
  rw [readFrames_ladder] at hformula
  exact ⟨ladder_writable 36, s, tokens, hs, hlex, hdepth, hformula.2.2 (by decide) (by decide)⟩

end Condition

end HashIf
