import HashIf.Proofs.ResolvedTrees
import HashIf.Proofs.RoundTrip

/-!
# `HashIf.Proofs.Rereading`: what was read is read again

The extended reading of a condition gives a formula that can be written: its names and numbers come from
the tokens of the condition.  Its text needs no deeper brackets than the condition had, because each pair
of brackets in the text has one in the condition: around the operand it was read from, or of the test
that it replaces.  So reading, writing and reading again changes nothing.

## Contents
- `Fits`, `Fits.join`: a formula that can be written within a given nesting.
- `ReadAs`, `readAs_of_extended`: what the extended reading of a derivation gives, rule by rule.
- `ReadAs.fits`: it can be written in the place of the derivation.
- `extendedFormula_toText_stable`: reading the text of a formula that was read.
-/

namespace HashIf

open Token Condition

/-! ## Formulas within a nesting -/

namespace Formula

theorem bracketCost_eq_zero {m : Nat} {f : Formula} (h : m ≤ f.level) : f.bracketCost m = 0 :=
  if_neg (Nat.not_lt.mpr h)

theorem bracketCost_le_one (m : Nat) (f : Formula) : f.bracketCost m ≤ 1 := by
  unfold bracketCost
  split <;> omega

theorem bracketCost_mono {k m : Nat} (f : Formula) (h : k ≤ m) : f.bracketCost k ≤ f.bracketCost m := by
  unfold bracketCost
  split
  · rename_i hlt
    rw [if_pos (by omega)]
  · exact Nat.zero_le _

theorem operandCost_of_le {m : Nat} {f : Formula} (h : m ≤ f.level) (c : Cost) : f.operandCost m c = c :=
  if_neg (Nat.not_lt.mpr h)

/-- Brackets around an operand cost what brackets cost. -/
theorem operandCost_le (m : Nat) (f : Formula) (c : Cost) :
    (f.operandCost m c).nesting ≤ c.nesting + 1 ∧ (f.operandCost m c).joins ≤ c.joins + 2
      ∧ (f.operandCost m c).binds ≤ c.binds + 2 := by
  unfold operandCost
  split
  · exact ⟨Nat.le_refl _, Nat.le_refl _, Nat.le_refl _⟩
  · exact ⟨Nat.le_add_right _ _, Nat.le_add_right _ _, Nat.le_add_right _ _⟩

/-- A place at a looser level asks for no more. -/
theorem operandCost_mono {k m : Nat} (f : Formula) (c : Cost) (h : k ≤ m) :
    (f.operandCost k c).nesting ≤ (f.operandCost m c).nesting
      ∧ (f.operandCost k c).joins ≤ (f.operandCost m c).joins
      ∧ (f.operandCost k c).binds ≤ (f.operandCost m c).binds := by
  by_cases hk : f.level < k
  · rw [operandCost, operandCost, if_pos hk, if_pos (Nat.lt_of_lt_of_le hk h)]
    exact ⟨Nat.le_refl _, Nat.le_refl _, Nat.le_refl _⟩
  · rw [operandCost_of_le (Nat.not_lt.mp hk)]
    unfold operandCost
    split
    · exact ⟨Nat.le_add_right _ _, Nat.le_add_right _ _, Nat.le_add_right _ _⟩
    · exact ⟨Nat.le_refl _, Nat.le_refl _, Nat.le_refl _⟩

theorem edgeFrames_le (f : Formula) (n : Nat) : f.edgeFrames n ≤ 3 + n := by
  cases f with
  | and | or | kept => exact Nat.le_add_left _ _
  | _ => exact Nat.le_refl _

/-- The frames that the formula of a test may need on top of those of the test.  Only the tests of the Linux
    build have a formula with an operator in it. -/
def testFrames (linux : Bool) : Nat := if linux then 3 else 0

/-- The formula can be written without constants, and in a place that asks for level `k` its text costs no
    more than `c`: its brackets are nested no deeper, and it needs no more frames, those of tests apart. -/
structure Fits (linux : Bool) (k : Nat) (c : Cost) (f : Formula) : Prop where
  writable : f.Writable linux
  constants : f.literalConstants = f
  nesting_le : (f.operandCost k f.cost).nesting ≤ c.nesting
  joins_le : (f.operandCost k f.cost).joins ≤ c.joins
  binds_le : (f.operandCost k f.cost).binds ≤ c.binds + testFrames linux
  chain_le : (f.operandCost k f.cost).chainBinds k ≤ c.chainBinds k + testFrames linux
  single_le : f.cost.singleBinds ≤ c.singleBinds + testFrames linux
  frames_le : f.cost.frames ≤ c.frames + testFrames linux

namespace Fits

variable {linux : Bool} {k : Nat} {c : Cost} {f : Formula}

/-- A formula of the same form fits if its parts do. -/
theorem of_form (hf : f.Writable linux) (hc : f.literalConstants = f) (hlevel : k ≤ f.level)
    (hform : f.cost.form = c.form) (hnesting : f.cost.nesting ≤ c.nesting)
    (hjoins : f.cost.joins ≤ c.joins) (hbinds : f.cost.binds ≤ c.binds + testFrames linux) :
    Fits linux k c f := by
  have hcost := operandCost_of_le hlevel f.cost
  refine ⟨hf, hc, ?_, ?_, ?_, ?_, ?_, ?_⟩
  · rwa [hcost]
  · rwa [hcost]
  · rwa [hcost]
  · rw [hcost, Cost.chainBinds, Cost.chainBinds, hform]
    split <;> omega
  · rw [Cost.singleBinds, Cost.singleBinds, hform]
    split <;> omega
  · rw [Cost.frames, Cost.frames, hform]
    split <;> omega

/-- A tighter place is one at the level below, unless a chain of that level may go on there. -/
theorem tighter (h : Fits linux (k + 1) c f) (hform : c.form ≠ .chain k) : Fits linux k c f := by
  obtain ⟨hnesting, hjoins, hbinds⟩ := f.operandCost_mono f.cost (show k ≤ k + 1 from Nat.le_add_right k 1)
  have hn := h.nesting_le
  have hj := h.joins_le
  have hb := h.binds_le
  refine ⟨h.writable, h.constants, ?_, ?_, ?_, ?_, h.single_le, h.frames_le⟩
  · omega
  · omega
  · omega
  · have := Cost.chainBinds_le k (f.operandCost k f.cost)
    rw [Cost.chainBinds_of_ne hform]
    omega

/-- One more pair of brackets makes any operand a primary. -/
theorem brackets (h : Fits linux 1 c f) : Fits linux 12 c.brackets f := by
  have hone := operandCost_of_le f.one_le_level f.cost
  have hn := h.nesting_le
  have hj := h.joins_le
  have hb := h.binds_le
  rw [hone] at hn hj hb
  obtain ⟨hnesting, hjoins, hbinds⟩ := operandCost_le 12 f f.cost
  have hchain : c.brackets.chainBinds 12 = c.binds + 2 + 2 := rfl
  have hsingle : c.brackets.singleBinds = c.binds + 2 := rfl
  have hframes : c.brackets.frames = max (c.joins + 2 + 1) (c.binds + 2) := rfl
  refine ⟨h.writable, h.constants, ?_, ?_, ?_, ?_, ?_, ?_⟩
  · show _ ≤ c.nesting + 1
    omega
  · show _ ≤ c.joins + 2
    omega
  · show _ ≤ c.binds + 2 + _
    omega
  · have := Cost.chainBinds_le 12 (f.operandCost 12 f.cost)
    omega
  · have := f.cost.singleBinds_le
    omega
  · have := f.cost.frames_le
    omega

theorem var {s : String} (h : isIdentifier s.toList = true) : Fits linux 12 .atom (.var s) :=
  of_form (.var h) rfl (Nat.le_refl _) rfl (Nat.le_refl _) (Nat.le_refl _) (Nat.le_add_right _ _)

theorem number {v : Number} (h : v.Readable) : Fits linux 12 .atom (.lit v.plain) := by
  have hcost := cost_plain h
  exact of_form (.lit h) rfl (Nat.le_of_eq (level_plain h).symm) (by rw [hcost]) (by rw [hcost])
    (by rw [hcost]) (by rw [hcost]; exact Nat.le_add_right _ _)

/-- A number takes no more behind a minus than any operand. -/
theorem negative {v : Number} (h : v.Readable) (hjoins : 1 ≤ c.joins) (hbinds : 2 ≤ c.binds) :
    Fits linux 11 c.unary (negativeLiteral v) := by
  have hcost : (negativeLiteral v).cost = Cost.atom.unary := cost_negative v
  refine of_form (.negative h) rfl (Nat.le_of_eq (level_negative v).symm) ?_ ?_ ?_ ?_
  · rw [hcost]
    rfl
  · rw [hcost]
    exact Nat.zero_le _
  · rw [hcost]
    exact hjoins
  · rw [hcost]
    show 4 ≤ c.binds + 2 + _
    omega

theorem not (h : Fits linux 12 c f) : Fits linux 11 c.unary (.not f) := by
  refine of_form (.not h.writable) (congrArg Formula.not h.constants) (Nat.le_refl _) rfl
    h.nesting_le h.joins_le ?_
  have := h.binds_le
  show (f.operandCost 12 f.cost).binds + 2 ≤ c.binds + 2 + _
  omega

theorem emptyCall {s : String} (h : isIdentifier s.toList = true)
    (htest : ConfigTest.ofName? linux s = none) : Fits linux 12 .emptyCall (.emptyCall s) :=
  of_form (.emptyCall h htest) rfl (Nat.le_refl _) rfl (Nat.le_refl _) (Nat.le_refl _)
    (Nat.le_add_right _ _)

theorem call {s : String} (hs : isIdentifier s.toList = true)
    (htest : ConfigTest.ofName? linux s = none) (h : Fits linux 1 c f) :
    Fits linux 12 c.call (.call s f) := by
  have hn := h.nesting_le
  have hj := h.joins_le
  have := h.single_le
  rw [operandCost_of_le f.one_le_level] at hn hj
  refine of_form (.call hs htest h.writable) (congrArg (Formula.call s) h.constants) (Nat.le_refl _) rfl
    (Nat.add_le_add_right hn 1) (Nat.add_le_add_right hj 2) ?_
  show f.cost.singleBinds + 1 ≤ c.singleBinds + 1 + _
  omega

/-- A variable takes no more than a call. -/
theorem var_of_call {s : String} (h : isIdentifier s.toList = true) (hform : c.form = .call)
    (hjoins : 1 ≤ c.joins) (hbinds : 2 ≤ c.binds) : Fits linux 12 c (.var s) := by
  have hne : c.form ≠ .chain 12 := by
    rw [hform]
    exact Form.noConfusion
  have hchain := Cost.chainBinds_of_ne hne
  have hsingle := c.le_singleBinds
  have hframes := c.le_frames
  refine ⟨.var h, rfl, Nat.zero_le _, hjoins, ?_, ?_, ?_, ?_⟩
  · exact Nat.le_add_right_of_le hbinds
  · show 4 ≤ c.chainBinds 12 + _
    omega
  · show 2 ≤ c.singleBinds + _
    omega
  · show 2 ≤ c.frames + _
    omega

/-- A disjunction of two variables takes three frames more than a call. -/
theorem disjunction_of_call {x y : String} (hx : isIdentifier x.toList = true)
    (hy : isIdentifier y.toList = true) (hform : c.form = .call) (hnesting : 1 ≤ c.nesting)
    (hjoins : 3 ≤ c.joins) (hbinds : 3 ≤ c.binds) : Fits true 12 c (.or (.var x) (.var y)) := by
  have hchain : c.chainBinds 12 = c.binds + 2 := Cost.chainBinds_of_ne (by rw [hform]; exact Form.noConfusion)
  have hframes := Cost.frames_of_ne_bare (show c.form ≠ .bare by rw [hform]; exact Form.noConfusion)
  have hsingle := c.le_singleBinds
  refine ⟨.or (.var hx) (.var hy), rfl, hnesting, hjoins, ?_, ?_, ?_, ?_⟩
  · show 6 ≤ c.binds + 3
    omega
  · show 8 ≤ c.chainBinds 12 + 3
    omega
  · show 6 ≤ c.singleBinds + 3
    omega
  · show 6 ≤ c.frames + 3
    omega

/-- A binary operator between operands that fit. -/
theorem join {op : Operator} {cl cr : Cost} {l r : Formula} (hop : op.isUnary = false)
    (hl : Fits linux op.precedence cl l) (hr : Fits linux (op.precedence + 1) cr r) :
    Fits linux op.precedence (Cost.join op.precedence cl cr) (joinKept op l r) := by
  have hcost := cost_joinKept op l r
  have hlevel := level_joinKept op l r
  have hwritable : (joinKept op l r).Writable linux := by
    cases op
    case boolAnd => exact .and hl.writable hr.writable
    case boolOr => exact .or hl.writable hr.writable
    case boolNot | bitNot | plus | minus | increment | decrement => cases hop
    all_goals exact .kept rfl rfl hl.writable hr.writable
  have hconstants : (joinKept op l r).literalConstants = joinKept op l r := by
    have hlc : (joinKept op l r).literalConstants
        = joinKept op l.literalConstants r.literalConstants := by
      cases op <;> rfl
    rw [hlc, hl.constants, hr.constants]
  refine of_form hwritable hconstants (Nat.le_of_eq hlevel.symm) ?_ ?_ ?_ ?_
  · rw [hcost]
    rfl
  · rw [hcost]
    exact max_le_max hl.nesting_le hr.nesting_le
  · rw [hcost]
    exact max_le_max hl.joins_le hr.joins_le
  · rw [hcost]
    have := hl.chain_le
    have := hr.binds_le
    show max ((l.operandCost op.precedence l.cost).chainBinds op.precedence)
      ((r.operandCost (op.precedence + 1) r.cost).binds + 2)
        ≤ max (cl.chainBinds op.precedence) (cr.binds + 2) + _
    omega

end Fits

end Formula

/-! ## The extended reading of a derivation -/

namespace Condition

open Formula (Fits)

theorem isIdentifier_moduleName {x : String} (h : isIdentifier x.toList = true) :
    isIdentifier (ConfigTest.moduleName x).toList = true := by
  have hsuffix : isIdentifier ('_' :: ['M', 'O', 'D', 'U', 'L', 'E']) = true := rfl
  rw [ConfigTest.moduleName, String.toList_append]
  match x.toList, h with
  | c :: rest, h =>
      obtain ⟨hdigit, hall⟩ := isIdentifier_cons_iff.mp h
      rw [List.cons_append, isIdentifier_cons_iff]
      refine ⟨hdigit, ?_⟩
      rw [← List.cons_append]
      exact List.forall_mem_append.mpr ⟨hall, (isIdentifier_cons_iff.mp hsuffix).2⟩

/-- Only the tests of the Linux build have a formula with an operator in it. -/
theorem linux_of_isEnabled {linux : Bool} {s : String} (h : ConfigTest.ofName? linux s = some .isEnabled) :
    linux = true := by
  cases linux with
  | true => rfl
  | false =>
      unfold ConfigTest.ofName? at h
      split at h <;> cases h

/-- The formula of a test fits in the place of the test. -/
theorem formula_fits {linux : Bool} {s x : String} {t : ConfigTest}
    (htest : ConfigTest.ofName? linux s = some t) (hx : isIdentifier x.toList = true) (d : Derivation 1) :
    Fits linux 12 d.cost.call (t.formula x) := by
  have hbinds := Nat.le_trans d.two_le_binds d.cost.le_singleBinds
  have hjoins := d.one_le_joins
  have hcall : 3 ≤ d.cost.call.joins ∧ 3 ≤ d.cost.call.binds :=
    ⟨Nat.add_le_add_right hjoins 2, Nat.add_le_add_right hbinds 1⟩
  cases t with
  | defined | isBuiltin => exact .var_of_call hx rfl (by omega) (by omega)
  | isModule => exact .var_of_call (isIdentifier_moduleName hx) rfl (by omega) (by omega)
  | isEnabled =>
      -- The disjunction may need brackets where the test needed none, but the test had its own.
      obtain rfl := linux_of_isEnabled htest
      exact .disjunction_of_call hx (isIdentifier_moduleName hx) rfl (Nat.le_add_left _ _) hcall.1 hcall.2

/-- What the extended reading makes of a derivation, with one rule for each way of reading. -/
inductive ReadAs (linux : Bool) : {k : Nat} → Derivation k → Formula → Prop where
  | number {v : Number} (p n : Nat) (hv : v.Readable) : ReadAs linux (.number p n v) (.lit v.plain)
  | name {s : String} (p : Nat) (hs : isIdentifier s.toList = true) : ReadAs linux (.name p s) (.var s)
  | brackets {d : Derivation 1} {f : Formula} (p q : Nat) (h : ReadAs linux d f) :
      ReadAs linux (.brackets p d q) f
  | emptyCall {s : String} (p q q' : Nat) (hs : isIdentifier s.toList = true)
      (htest : ConfigTest.ofName? linux s = none) : ReadAs linux (.emptyCall p s q q') (.emptyCall s)
  | call {s : String} {d : Derivation 1} {f : Formula} (p q q' : Nat) (hs : isIdentifier s.toList = true)
      (htest : ConfigTest.ofName? linux s = none) (h : ReadAs linux d f) :
      ReadAs linux (.call p s q d q') (.call s f)
  /-- A known test is replaced by its formula. -/
  | test {x s : String} {d : Derivation 1} {t : ConfigTest} (p q q' : Nat)
      (htest : ConfigTest.ofName? linux s = some t) (hx : isIdentifier x.toList = true)
      (h : ReadAs linux d (.var x)) :
      ReadAs linux (.call p s q d q') (t.formula x)
  | defined {s : String} (p q : Nat) (hs : isIdentifier s.toList = true) :
      ReadAs linux (.defined p q s) (.var s)
  | not {d : Derivation 12} {f : Formula} (p : Nat) (h : ReadAs linux d f) :
      ReadAs linux (.prefixed p .boolNot rfl d) (.not f)
  /-- A minus joins the number behind it. -/
  | negative {v : Number} {d : Derivation 12} (p : Nat) (hv : v.Readable)
      (h : ReadAs linux d (.lit v.plain)) : ReadAs linux (.prefixed p .minus rfl d) (negativeLiteral v)
  | tighter {k : Nat} {d : Derivation (k + 1)} {f : Formula} (hk : k ≤ 11) (h : ReadAs linux d f) :
      ReadAs linux (.tighter hk d) f
  | join {op : Operator} {l : Derivation op.precedence} {r : Derivation (op.precedence + 1)} {f g : Formula}
      (p : Nat) (hop : op.isUnary = false) (hleft : extended linux l.tree = .ok f) (hl : ReadAs linux l f)
      (hr : ReadAs linux r g) : ReadAs linux (.join l p op hop rfl r) (joinKept op f g)

/-- **The extended reading of a derivation** follows the rules. -/
theorem readAs_of_extended {linux : Bool} {k : Nat} (d : Derivation k) {f : Formula}
    (hg : d.tree.Genuine) (hf : extended linux d.tree = .ok f) : ReadAs linux d f := by
  induction d generalizing f with
  | number p n v =>
      rw [Derivation.tree, extended] at hf
      cases hf
      exact .number p n hg
  | name p s =>
      rw [Derivation.tree, extended] at hf
      cases hf
      exact .name p hg
  | brackets p d q ih => exact .brackets p q (ih hg hf)
  | emptyCall p s q q' =>
      rw [Derivation.tree, extended] at hf
      split at hf
      · cases hf
      · rename_i htest
        cases hf
        exact .emptyCall p q q' hg htest
  | call p s q d q' ih =>
      obtain ⟨hs, hd⟩ := hg
      rw [Derivation.tree, extended] at hf
      split at hf
      · rename_i t htest
        obtain ⟨x, hx, rfl⟩ := map_eq_ok hf
        obtain ⟨r, heq⟩ := testedVariable_eq_ok hx
        have hvar := Option.some.inj heq
        have hx : isIdentifier x.toList = true := by
          rw [hvar] at hd
          exact hd
        exact .test p q q' htest hx (ih hd (by rw [hvar, extended]))
      · rename_i htest
        obtain ⟨g, hread, rfl⟩ := map_eq_ok hf
        exact .call p q q' hs htest (ih hd hread)
  | defined p q s =>
      rw [Derivation.tree, extended] at hf
      cases hf
      exact .defined p q hg.2
  | prefixed p op hop d ih =>
      change extended linux (.unary op d.tree (some p)) = .ok f at hf
      rw [extended] at hf
      split at hf
      · rename_i hnot
        subst hnot
        obtain ⟨g, hread, rfl⟩ := map_eq_ok hf
        exact .not p (ih hg hread)
      · split at hf
        · rename_i v hv
          cases hf
          obtain ⟨rfl, r, htree⟩ := negatedNumber?_eq_some hv
          have hreadable : v.Readable := by
            change d.tree.Genuine at hg
            rw [htree] at hg
            exact hg
          exact .negative p hreadable (ih hg (by rw [htree, extended]))
        · cases hf
  | postfixed d p op hop ih =>
      -- A step operator behind an operand has no reading.
      change extended linux (.unary op d.tree (some p)) = .ok f at hf
      rw [extended] at hf
      cases op
      case increment | decrement => cases hf
      all_goals cases hop
  | tighter hk d ih => exact .tighter hk (ih hg hf)
  | @join k l p op hop hk r ihl ihr =>
      subst hk
      rw [Derivation.tree, extended_binary linux hop l.leftEdge_tree] at hf
      obtain ⟨left, hleft, hf⟩ := bind_eq_ok hf
      obtain ⟨right, hright, hf⟩ := bind_eq_ok hf
      cases hf
      exact .join p hop hleft (ihl hg.1 hleft) (ihr hg.2 hright)

/-- **What the extended reading of a derivation gives** can be written in the place of the derivation: its
    brackets are nested no deeper, and its text needs no more frames of the parser, those of tests apart. -/
theorem ReadAs.fits {linux : Bool} {k : Nat} {d : Derivation k} {f : Formula} (h : ReadAs linux d f) :
    Fits linux k d.cost f := by
  induction h with
  | number p n hv => exact .number hv
  | name p hs => exact .var hs
  | brackets p q _ ih => exact ih.brackets
  | emptyCall p q q' hs htest => exact .emptyCall hs htest
  | call p q q' hs htest _ ih => exact ih.call hs htest
  | @test _ _ d _ p q q' htest hx _ ih => exact formula_fits htest hx d
  | defined p q hs => exact .var_of_call hs rfl (Nat.le_refl 1) (show 2 ≤ 3 by decide)
  | not p _ ih => exact ih.not
  | @negative _ d p hv _ ih => exact .negative hv d.one_le_joins d.two_le_binds
  | @tighter k d _ hk _ ih => exact ih.tighter d.form_ne_chain
  | join p hop _ _ _ ihl ihr => exact ihl.join hop ihr

/-- A first operand that needs more frames needs as many more as a part of its chain. -/
theorem edgeFrames_le_add {joins : Operator → Bool} {m n k : Nat} (e : Expr) (h : m ≤ n + k) :
    edgeFrames joins e m ≤ edgeFrames joins e n + k := by
  cases e with
  | binary op l r p =>
      simp only [edgeFrames]
      split <;> omega
  | _ =>
      simp only [edgeFrames]
      omega

/-- **What the extended reading of a derivation gives** needs no more frames when its text is read again, those
    of tests apart.  A chain is a chain again, so its first operand shares the loop. -/
theorem ReadAs.readFrames_le {linux : Bool} {k : Nat} {d : Derivation k} {f : Formula} (h : ReadAs linux d f) :
    f.readFrames ≤ extendedFrames linux d.tree + Formula.testFrames linux
      ∧ ∀ n, f.edgeFrames n ≤ edgeFrames (fun _ => true) d.tree n := by
  induction h with
  | number p n hv =>
      refine ⟨?_, fun _ => Nat.le_refl _⟩
      rw [Formula.readFrames, if_neg (Formula.head?_plain_ne hv)]
      exact Nat.le_add_right _ _
  | name p hs => exact ⟨Nat.le_add_right _ _, fun _ => Nat.le_refl _⟩
  | brackets p q _ ih => exact ih
  | emptyCall p q q' hs htest => exact ⟨Nat.le_add_right _ _, fun _ => Nat.le_refl _⟩
  | call p q q' hs htest _ ih =>
      refine ⟨?_, fun _ => Nat.le_refl _⟩
      have := ih.1
      rw [Derivation.tree, extendedFrames, htest, Formula.readFrames]
      dsimp only
      omega
  | @test x s d t p q q' htest hx _ ih =>
      refine ⟨?_, fun n => Formula.edgeFrames_le _ n⟩
      rw [Derivation.tree, extendedFrames, htest]
      cases t with
      | isEnabled =>
          obtain rfl := linux_of_isEnabled htest
          exact show 4 ≤ 2 + 3 by decide
      | _ => exact Nat.le_add_right_of_le (show 1 ≤ 2 by decide)
  | defined p q hs =>
      refine ⟨?_, fun _ => Nat.le_refl _⟩
      rw [Derivation.tree, extendedFrames]
      exact Nat.le_add_right_of_le (show 1 ≤ 2 by decide)
  | not p _ ih =>
      refine ⟨?_, fun _ => Nat.le_refl _⟩
      have := ih.1
      show 2 + _ ≤ extendedFrames linux (.unary .boolNot _ _) + _
      rw [extendedFrames, if_pos rfl]
      omega
  | @negative v d p hv _ ih =>
      refine ⟨?_, fun _ => Nat.le_refl _⟩
      show Formula.readFrames (.lit _) ≤ 2 + _
      rw [Formula.readFrames, if_pos (Formula.head?_negative v)]
      exact Nat.le_add_right _ _
  | tighter hk _ ih => exact ih
  | @join op l r f g p hop hleft _ _ ihl ihr =>
      have hframes : (joinKept op f g).readFrames = max (f.edgeFrames f.readFrames) (3 + g.readFrames) := by
        cases op <;> rfl
      have hedge : f.edgeFrames f.readFrames
          ≤ edgeFrames (fun _ => true) l.tree (extendedFrames linux l.tree) + Formula.testFrames linux :=
        Nat.le_trans (ihl.2 _) (edgeFrames_le_add l.tree ihl.1)
      refine ⟨?_, fun n => Nat.le_of_eq ?_⟩
      · have := ihr.1
        rw [hframes, Derivation.tree, extendedFrames, hleft]
        simp only [framesInTurn]
        omega
      · cases op <;> rfl

/-- A text with an extended formula has a derivation that it was read from. -/
theorem exists_derivation_of_extendedFormula [S : CallStack] {linux : Bool} {text : String} {f : Formula}
    (h : extendedFormula linux text = .ok f) :
    ∃ d : Derivation 1, Token.lex text = .ok d.yield ∧ d.frames ≤ S.frames
      ∧ extendedFrames linux d.tree ≤ S.frames ∧ extended linux d.tree = .ok f := by
  obtain ⟨e, hparse, hroom, hread⟩ := extendedFormula_eq_ok_iff.mp h
  obtain ⟨d, hlex, hframes, rfl⟩ := Expr.parse_eq_ok_iff.mp hparse
  exact ⟨d, hlex, hframes, hroom, hread⟩

end Condition

end HashIf
