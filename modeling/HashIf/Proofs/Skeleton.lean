import HashIf.Proofs.ResolvedTrees
import HashIf.Proofs.StrictTree

/-!
# `HashIf.Proofs.Skeleton`: the two readings share their Boolean skeleton

Whatever has a strict reading has an extended one.  If nothing is encoded as a variable, the strict formula
is the extended one with truth values in the place of its literals, and literals are all that the extended
formula has beyond propositional logic.

A comparison that is encoded needs more frames when its sides are read than when they are only named.  But
it needs no more than the parser did, so what was parsed can be read.

## Contents
- `literalNumber?`, `denotesZero`: the number that the text of a literal denotes.
- `OverLiterals`, `collapseLiterals`: formulas over literals and what becomes of these.
- `StrictOf.exists_extended`: the extended formula of a tree with a strict one.
- `StrictOf.extendedFrames_le`: the frames of the extended reading, by those of the parser.
- `interpretStrict_skeleton`: the two readings of a text.
-/

namespace HashIf

open Condition

/-! ## Literals as truth values -/

namespace Formula

/-- The number that the text of a literal denotes, a sign in front apart. -/
def literalNumber? (text : String) : Option Number :=
  match text.toList with
  | '-' :: cs => (Number.ofNumeral cs).toOption
  | cs => (Number.ofNumeral cs).toOption

/-- Whether the text of a literal denotes zero, with or without a sign. -/
def denotesZero (text : String) : Bool := (literalNumber? text).any Number.isZero

/-- The text of a number denotes the number. -/
theorem literalNumber?_plain {v : Number} (h : v.Readable) : literalNumber? v.plain = some v := by
  obtain ⟨⟨c, cs, heq, hdigit⟩, -⟩ := h.plain_chars
  unfold literalNumber?
  split
  · rename_i cs' hminus
    rw [heq] at hminus
    cases hminus
    cases hdigit
  · rw [h.ofNumeral_plain]
    rfl

/-- A sign in front of the text of a number is left out of account. -/
theorem literalNumber?_negative {v : Number} (h : v.Readable) :
    literalNumber? ("-" ++ v.plain) = some v := by
  have htext : ("-" ++ v.plain).toList = '-' :: v.plain.toList := by
    rw [String.toList_append]
    rfl
  unfold literalNumber?
  rw [htext]
  show (Number.ofNumeral v.plain.toList).toOption = some v
  rw [h.ofNumeral_plain]
  rfl

/-- Only constants, variables, literals and connectives occur. -/
def OverLiterals : Formula → Prop
  | const _ | var _ | lit _ => True
  | not f => f.OverLiterals
  | and l r | or l r => l.OverLiterals ∧ r.OverLiterals
  | kept _ _ _ | emptyCall _ | call _ _ | unknown _ => False

/-- The formula with truth values in the place of its literals: only a zero is false. -/
def collapseLiterals : Formula → Formula
  | lit text => const (!denotesZero text)
  | not f => not f.collapseLiterals
  | and l r => and l.collapseLiterals r.collapseLiterals
  | or l r => or l.collapseLiterals r.collapseLiterals
  | kept op l r => kept op l.collapseLiterals r.collapseLiterals
  | call name f => call name f.collapseLiterals
  | f => f

end Formula

/-- A tree whose operators are bound has binary operators along its left edge. -/
theorem Expr.Bound.leftEdge {e : Expr} (h : e.Bound) : LeftEdge e := by
  induction e with
  | binary op l r p ihl =>
      obtain ⟨hop, hl, -⟩ := h
      exact ⟨hop, ihl hl⟩
  | _ => trivial

namespace Condition

/-! ## The extended reading of a tree -/

/-- The sides of a comparison with a name are variables and numbers, which have an extended reading. -/
theorem exists_extended_of_comparisonName? {op : Operator} {l r : Expr} {name : String}
    (h : comparisonName? op (some l) (some r) = some name) (linux : Bool) :
    ∃ left right, extended linux l = .ok left ∧ extended linux r = .ok right := by
  unfold comparisonName? at h
  split at h
  case h_4 => cases h
  all_goals
    rename_i hl hr
    cases hl
    cases hr
    rw [extended, extended]
    exact ⟨_, _, rfl, rfl⟩

/-- The formula of a test has no literals. -/
theorem ConfigTest.formula_overLiterals (t : ConfigTest) (x : String) :
    (t.formula x).OverLiterals ∧ (t.formula x).collapseLiterals = t.formula x := by
  cases t with
  | defined | isBuiltin | isModule => exact ⟨trivial, rfl⟩
  | isEnabled => exact ⟨⟨trivial, trivial⟩, rfl⟩

/-- On connectives both readings build the same formula. -/
theorem collapseLiterals_joinKept {op : Operator} (hop : op.isConnective = true) {f g : Formula} :
    (joinKept op f g).collapseLiterals = connect op f.collapseLiterals g.collapseLiterals
      ∧ ((joinKept op f g).OverLiterals ↔ f.OverLiterals ∧ g.OverLiterals) := by
  cases op with
  | boolAnd => exact ⟨rfl, Iff.rfl⟩
  | boolOr => exact ⟨rfl, Iff.rfl⟩
  | _ => cases hop

/-- **A tree with a strict formula has an extended one.**  Unless comparisons and bare variables are
    encoded, the strict formula is the extended one with its literals collapsed. -/
theorem StrictOf.exists_extended {o : Options} {e : Expr} {f : Formula} (h : StrictOf o e f)
    (he : e.WellFormed) :
    ∃ g, extended o.linux e = .ok g
      ∧ (o.fuzzy = false → f = g.collapseLiterals ∧ g.OverLiterals) := by
  obtain ⟨hgenuine, hbound⟩ := he
  induction h with
  | number v p =>
      refine ⟨.lit v.plain, by rw [extended], fun _ => ⟨?_, trivial⟩⟩
      rw [Formula.collapseLiterals, Formula.denotesZero, Formula.literalNumber?_plain hgenuine]
      rfl
  | @negative e v p h =>
      rcases Expr.firstOperand?_eq_some h with ⟨q, rfl⟩ | ⟨r, q, rfl⟩
      · refine ⟨negativeLiteral v, ?_, fun _ => ⟨?_, trivial⟩⟩
        · rw [extended, if_neg (by decide)]
          rfl
        · rw [negativeLiteral, Formula.collapseLiterals, Formula.denotesZero,
            Formula.literalNumber?_negative hgenuine]
          rfl
      · -- A minus with two operands is not bound.
        cases hbound.1
  | @test name x t p q ht =>
      refine ⟨t.formula x, ?_, fun _ => ?_⟩
      · rw [extended, ht]
        rfl
      · obtain ⟨hover, hcollapse⟩ := t.formula_overLiterals x
        exact ⟨hcollapse.symm, hover⟩
  | bare x p hfuzzy =>
      refine ⟨.var x, by rw [extended], fun hoff => ?_⟩
      rw [hfuzzy] at hoff
      cases hoff
  | @comparison op l r name p hfuzzy hop h =>
      obtain ⟨left, right, hleft, hright⟩ := exists_extended_of_comparisonName? h o.linux
      refine ⟨joinKept op left right, ?_, fun hoff => ?_⟩
      · rw [extended_binary o.linux hbound.1 hbound.2.1.leftEdge, hleft, hright]
        rfl
      · rw [hfuzzy] at hoff
        cases hoff
  | @not e a f h ha ih =>
      rcases Expr.firstOperand?_eq_some h with ⟨q, rfl⟩ | ⟨r, q, rfl⟩
      · obtain ⟨g, hg, hcollapse⟩ := ih hgenuine hbound.2
        refine ⟨.not g, ?_, fun hoff => ?_⟩
        · rw [extended, if_pos rfl, hg]
          rfl
        · obtain ⟨hf, hover⟩ := hcollapse hoff
          exact ⟨congrArg Formula.not hf, hover⟩
      · cases hbound.1
  | @connective op l r f₁ f₂ p hop hl hr ihl ihr =>
      obtain ⟨hbinary, hleft, hright⟩ := hbound
      obtain ⟨g₁, hg₁, hcollapse₁⟩ := ihl hgenuine.1 hleft
      obtain ⟨g₂, hg₂, hcollapse₂⟩ := ihr hgenuine.2 hright
      refine ⟨joinKept op g₁ g₂, ?_, fun hoff => ?_⟩
      · rw [extended_binary o.linux hbinary hleft.leftEdge, hg₁, hg₂]
        rfl
      · obtain ⟨hf₁, hover₁⟩ := hcollapse₁ hoff
        obtain ⟨hf₂, hover₂⟩ := hcollapse₂ hoff
        obtain ⟨hjoin, hover⟩ := collapseLiterals_joinKept hop (f := g₁) (g := g₂)
        rw [hjoin, hf₁, hf₂]
        exact ⟨rfl, hover.mpr ⟨hover₁, hover₂⟩⟩

/-! ## The frames of the extended reading -/

/-- A chain has a binary operator at its root. -/
theorem edgeFrames_of_chain {k m : Nat} {d : Derivation k} (h : d.cost.form = .chain m) (n : Nat) :
    edgeFrames (fun _ => true) d.tree n = n := by
  induction d with
  | tighter hk d ih => exact ih h
  | join => rfl
  | _ => cases h

/-- The sides of a comparison with a name have nothing to read inside. -/
theorem extendedFrames_of_comparisonName? {op : Operator} {l r : Expr} {name : String}
    (h : comparisonName? op (some l) (some r) = some name) (linux : Bool) (p : Option Int) :
    extendedFrames linux (.binary op l r p) ≤ 4 := by
  unfold comparisonName? at h
  split at h
  case h_4 => cases h
  all_goals
    rename_i hl hr
    cases hl
    cases hr
    exact framesInTurn_le _ _ _

/-- The extended reading of a chain, by the readings of its operands. -/
theorem extendedFrames_join_le {linux : Bool} {op : Operator} (hop : op.isConnective = true)
    {l : Derivation op.precedence} {r : Derivation (op.precedence + 1)} (p : Option Int)
    (hl : extendedFrames linux l.tree ≤ l.cost.binds + (3 - l.cost.form.level))
    (hr : extendedFrames linux r.tree ≤ r.cost.binds + (3 - r.cost.form.level)) :
    extendedFrames linux (.binary op l.tree r.tree p)
      ≤ max (l.cost.chainBinds op.precedence) (r.cost.binds + 2) + (3 - op.precedence) := by
  have hprec : op.precedence ≤ 2 := by
    cases op with
    | boolAnd | boolOr => decide
    | _ => cases hop
  have hright := r.le_level
  have hleft : edgeFrames (fun _ => true) l.tree (extendedFrames linux l.tree)
      ≤ l.cost.chainBinds op.precedence + (3 - op.precedence) := by
    by_cases hform : l.cost.form = .chain op.precedence
    · -- The chain goes on, in the same loop of the reading and with the same frames of the parser.
      have hlevel := l.le_level
      rw [edgeFrames_of_chain hform, Cost.chainBinds, if_pos hform]
      omega
    · have hlevel := Form.lt_level l.le_level (by omega) hform
      have hedge := edgeFrames_le (fun _ => true) l.tree (extendedFrames linux l.tree)
      rw [Cost.chainBinds_of_ne hform]
      omega
  rw [extendedFrames]
  refine Nat.le_trans (framesInTurn_le _ _ _) ?_
  omega

/-- **The extended reading of a tree with a strict formula** needs no more frames than binding its operators,
    except that a chain of `||` may need two more and a chain of `&&` one more. -/
theorem StrictOf.extendedFrames_le {o : Options} {k : Nat} {d : Derivation k} {f : Formula}
    (h : StrictOf o d.tree f) :
    extendedFrames o.linux d.tree ≤ d.cost.binds + (3 - d.cost.form.level) := by
  induction d generalizing f with
  | number p n v => exact show 1 ≤ 2 by decide
  | name p s => exact show 1 ≤ 2 by decide
  | emptyCall p s q q' => exact show 2 ≤ 2 by decide
  | defined p q s => exact show 2 ≤ 3 by decide
  | brackets p d q ih =>
      have hread := ih h
      have hlevel := d.le_level
      show extendedFrames o.linux d.tree ≤ d.cost.binds + 2
      omega
  | call p s q d q' ih =>
      rw [Derivation.tree] at h ⊢
      generalize d.tree = argument at h ⊢
      cases h with
      | test _ _ htest =>
          have := d.two_le_binds
          have := d.cost.le_singleBinds
          rw [extendedFrames, htest]
          show 2 ≤ d.cost.singleBinds + 1
          omega
      | negative h | not h => cases h
  | prefixed p op hop d ih =>
      have hlevel := d.le_level
      have hbinds := d.two_le_binds
      show extendedFrames o.linux (.unary op d.tree (some p)) ≤ d.cost.binds + 2
      change StrictOf o (.unary op d.tree (some p)) f at h
      rw [extendedFrames]
      split
      · rename_i hnot
        subst hnot
        cases h with
        | not h ha =>
            cases h
            have hread := ih ha
            omega
        | negative h => cases h
      · omega
  | postfixed d p op hop ih =>
      have hbinds := d.two_le_binds
      have hne : op ≠ .boolNot := by
        rintro rfl
        cases hop
      show extendedFrames o.linux (.unary op d.tree (some p)) ≤ d.cost.binds + 2
      rw [extendedFrames, if_neg hne]
      omega
  | tighter hk d ih => exact ih h
  | join l p op hop hk r ihl ihr =>
      subst hk
      show extendedFrames o.linux (.binary op l.tree r.tree (some p))
        ≤ max (l.cost.chainBinds op.precedence) (r.cost.binds + 2) + (3 - op.precedence)
      rw [Derivation.tree] at h
      generalize hleft : l.tree = left at h
      generalize hright : r.tree = right at h
      cases h with
      | comparison _ _ _ hname =>
          have hread := extendedFrames_of_comparisonName? hname o.linux (some (p : Int))
          have hbinds := r.two_le_binds
          omega
      | connective _ hconnective hl hr =>
          subst hleft hright
          exact extendedFrames_join_le hconnective (some p) (ihl hl) (ihr hr)
      | negative h | not h =>
          cases h
          cases hop

/-- What has a strict formula was parsed with enough frames for its extended reading. -/
theorem StrictOf.extendedFrames_le_frames {o : Options} {d : Derivation 1} {f : Formula}
    (h : StrictOf o d.tree f) : extendedFrames o.linux d.tree ≤ d.frames := by
  have hread := h.extendedFrames_le
  by_cases hform : d.cost.form = .bare
  · have hframes := d.cost.le_frames
    rw [hform] at hread
    rw [Derivation.frames]
    exact Nat.le_trans hread (Nat.le_trans (Nat.le_max_right _ _) hframes)
  · have hlevel := d.le_level
    rw [Derivation.frames, Cost.frames_of_ne_bare hform]
    omega

/-! ## The two readings of a text -/

/-- **The two readings share their Boolean skeleton.**  A text with a strict reading has an extended one;
    unless comparisons and bare variables are encoded, the strict formula is the extended one with a truth
    value for each literal, and the extended formula has nothing else beyond propositional logic. -/
theorem interpretStrict_skeleton [CallStack] {linux fuzzy : Bool} {text : String} {f : Formula}
    (h : (interpretStrict ⟨linux, fuzzy, .refuse⟩ text).result = .ok f) :
    ∃ g, (interpretExtended linux text).result = .ok g
      ∧ (fuzzy = false → f = g.collapseLiterals ∧ g.OverLiterals) := by
  rw [interpretStrict_refuse rfl] at h
  obtain ⟨e, hparse, -, hstrict⟩ := strictFormula_eq_ok_iff.mp h
  have hwell := Expr.wellFormed_of_parse hparse
  have hof := strict_eq_ok_iff.mp hstrict
  obtain ⟨g, hg, hcollapse⟩ := hof.exists_extended hwell
  obtain ⟨d, -, hframes, rfl⟩ := Expr.parse_eq_ok_iff.mp hparse
  have hroom := Nat.le_trans hof.extendedFrames_le_frames hframes
  exact ⟨g, extendedFormula_eq_ok_iff.mpr ⟨d.tree, hparse, hroom, hg⟩, hcollapse⟩

/-- The extended formula of `defined A||!(-0)`. -/
def signedZero : Formula := .or (.var "A") (.not (.lit "-0"))

theorem interpretStrict_skeleton_signedZero :
    (interpretExtended false "defined A||!(-0)").result = .ok signedZero
      ∧ (interpretStrict ⟨false, false, .refuse⟩ "defined A||!(-0)").result
        = .ok signedZero.collapseLiterals
      ∧ signedZero.collapseLiterals = .or (.var "A") (.not (.const false))
      ∧ signedZero.OverLiterals := by
  have hstrict : (interpretStrict ⟨false, false, .refuse⟩ "defined A||!(-0)").result
      = .ok (.or (.var "A") (.not (.const false))) := by cbv
  have hextended : (interpretExtended false "defined A||!(-0)").result = .ok signedZero := by cbv
  obtain ⟨g, hg, hskeleton⟩ := interpretStrict_skeleton hstrict
  rw [hextended] at hg
  cases hg
  obtain ⟨hcollapse, hover⟩ := hskeleton rfl
  exact ⟨hextended, hcollapse ▸ hstrict, hcollapse.symm, hover⟩

end Condition

end HashIf
