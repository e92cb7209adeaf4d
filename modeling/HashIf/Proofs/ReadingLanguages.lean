import HashIf.Proofs.PlainReadings
import HashIf.Proofs.Policies

/-!
# `HashIf.Proofs.ReadingLanguages`: which trees have a formula

The trees with a strict formula are a language of their own, closed under `!`, `&&` and `||`.  The trees
without an extended formula are those that hold, anywhere, one of two things: a test of anything but a
variable, or a unary operator that is neither `!` nor a minus in front of a number.  Both are said without
the readings.  Everything else that goes wrong with a tree goes wrong before it is read.

## Contents
- `KnownTest`: the names of the tests.
- `InStrictLanguage`, `exists_strictOf_iff`: the trees with a strict formula.
- `Unreadable`, `nodeFault?_isSome_iff`: the nodes without an extended formula.
- `reading_languages`: the trees that the two readings accept.
-/

namespace HashIf.Condition

/-! ## Tests -/

/-- The names of the tests that the Linux build configuration adds. -/
def linuxTests : List String := ["IS_ENABLED", "IS_MODULE", "IS_BUILTIN"]

/-- The name is one of a test. -/
def KnownTest (linux : Bool) (name : String) : Prop :=
  name = "defined" ∨ linux = true ∧ name ∈ linuxTests

theorem ofName?_isSome_iff {linux : Bool} {name : String} :
    (ConfigTest.ofName? linux name).isSome = true ↔ KnownTest linux name := by
  unfold ConfigTest.ofName? KnownTest linuxTests Expr.definedName
  by_cases hdefined : name = "defined"
  · simp [hdefined]
  · cases linux with
    | false => simp [hdefined]
    | true =>
        simp only [beq_iff_eq, hdefined, if_false, Bool.not_true, Bool.false_eq_true, false_or,
          true_and, List.mem_cons, List.not_mem_nil, or_false]
        split_ifs <;> simp_all

/-! ## The strict language -/

/-- The trees with a strict formula: numbers, also negative ones, and tests of a variable; variables and
    their comparisons with each other and with numbers if these are encoded; and whatever `!`, `&&` and
    `||` make of such trees. -/
inductive InStrictLanguage (o : Options) : Expr → Prop where
  | number (v : Number) (p : Option Int) : InStrictLanguage o (.num v p)
  | negative (v : Number) (p q : Option Int) : InStrictLanguage o (.unary .minus (.num v p) q)
  | test {name : String} (h : KnownTest o.linux name) (x : String) (p q : Option Int) :
      InStrictLanguage o (.call name (.var x p) q)
  | bare (hfuzzy : o.fuzzy = true) (x : String) (p : Option Int) : InStrictLanguage o (.var x p)
  | variableVariable {op : Operator} (hfuzzy : o.fuzzy = true) (hop : op.isComparison = true) (x y : String)
      (p q pos : Option Int) : InStrictLanguage o (.binary op (.var x p) (.var y q) pos)
  | variableNumber {op : Operator} (hfuzzy : o.fuzzy = true) (hop : op.isComparison = true) (x : String)
      (v : Number) (p q pos : Option Int) : InStrictLanguage o (.binary op (.var x p) (.num v q) pos)
  | numberVariable {op : Operator} (hfuzzy : o.fuzzy = true) (hop : op.isComparison = true) (v : Number)
      (x : String) (p q pos : Option Int) : InStrictLanguage o (.binary op (.num v p) (.var x q) pos)
  | not {a : Expr} (ha : InStrictLanguage o a) (pos : Option Int) :
      InStrictLanguage o (.unary .boolNot a pos)
  | and {l r : Expr} (hl : InStrictLanguage o l) (hr : InStrictLanguage o r) (pos : Option Int) :
      InStrictLanguage o (.binary .boolAnd l r pos)
  | or {l r : Expr} (hl : InStrictLanguage o l) (hr : InStrictLanguage o r) (pos : Option Int) :
      InStrictLanguage o (.binary .boolOr l r pos)

/-- A comparison with a name is in the language. -/
theorem inStrictLanguage_of_comparisonName? {o : Options} {op : Operator} {l r : Expr} {name : String}
    (hfuzzy : o.fuzzy = true) (hop : op.isComparison = true)
    (h : comparisonName? op (some l) (some r) = some name) (pos : Option Int) :
    InStrictLanguage o (.binary op l r pos) := by
  unfold comparisonName? at h
  split at h
  · rename_i hl hr
    cases hl
    cases hr
    exact .variableNumber hfuzzy hop _ _ _ _ _
  · rename_i hl hr
    cases hl
    cases hr
    exact .numberVariable hfuzzy hop _ _ _ _ _
  · rename_i hl hr
    cases hl
    cases hr
    exact .variableVariable hfuzzy hop _ _ _ _ _
  · cases h

/-- A tree with a strict formula is in the language. -/
theorem StrictOf.inStrictLanguage {o : Options} {e : Expr} {f : Formula} (h : StrictOf o e f)
    (he : e.Bound) : InStrictLanguage o e := by
  induction h with
  | number v p => exact .number v p
  | negative h =>
      rcases Expr.firstOperand?_eq_some h with ⟨q, rfl⟩ | ⟨r, q, rfl⟩
      · exact .negative _ _ _
      · -- A minus with two operands is not bound.
        cases he.1
  | test p q ht => exact .test (ofName?_isSome_iff.mp (Option.isSome_of_eq_some ht)) _ _ _
  | bare x p hfuzzy => exact .bare hfuzzy x p
  | comparison p hfuzzy hop h => exact inStrictLanguage_of_comparisonName? hfuzzy hop h p
  | not h _ ih =>
      rcases Expr.firstOperand?_eq_some h with ⟨q, rfl⟩ | ⟨r, q, rfl⟩
      · exact .not (ih he.2) q
      · cases he.1
  | @connective op l r f g p hop _ _ ihl ihr =>
      obtain ⟨-, hl, hr⟩ := he
      cases op with
      | boolAnd => exact .and (ihl hl) (ihr hr) p
      | boolOr => exact .or (ihl hl) (ihr hr) p
      | _ => cases hop

/-- A tree in the language has a strict formula. -/
theorem InStrictLanguage.exists_strictOf {o : Options} {e : Expr} (h : InStrictLanguage o e) :
    ∃ f, StrictOf o e f := by
  induction h with
  | number v p => exact ⟨_, .number v p⟩
  | negative v p q => exact ⟨_, .negative rfl⟩
  | test h x p q =>
      obtain ⟨t, ht⟩ := Option.isSome_iff_exists.mp (ofName?_isSome_iff.mpr h)
      exact ⟨_, .test q p ht⟩
  | bare hfuzzy x p => exact ⟨_, .bare x p hfuzzy⟩
  | variableVariable hfuzzy hop x y p q pos => exact ⟨_, .comparison pos hfuzzy hop rfl⟩
  | variableNumber hfuzzy hop x v p q pos => exact ⟨_, .comparison pos hfuzzy hop rfl⟩
  | numberVariable hfuzzy hop v x p q pos => exact ⟨_, .comparison pos hfuzzy hop rfl⟩
  | not _ pos ih =>
      obtain ⟨f, hf⟩ := ih
      exact ⟨_, .not rfl hf⟩
  | and _ _ pos ihl ihr =>
      obtain ⟨f, hf⟩ := ihl
      obtain ⟨g, hg⟩ := ihr
      exact ⟨_, .connective pos rfl hf hg⟩
  | or _ _ pos ihl ihr =>
      obtain ⟨f, hf⟩ := ihl
      obtain ⟨g, hg⟩ := ihr
      exact ⟨_, .connective pos rfl hf hg⟩

/-! ## Nodes without an extended formula -/

/-- A node that has no extended formula, whatever stands around it: a test without a variable, or a unary
    operator that is neither `!` nor a minus in front of a number. -/
inductive Unreadable (linux : Bool) : Expr → Prop where
  | testOfNothing {name : String} (h : KnownTest linux name) (p : Option Int) :
      Unreadable linux (.emptyCall name p)
  | testOfOther {name : String} {a : Expr} (h : KnownTest linux name) (ha : ∀ x q, a ≠ .var x q)
      (p : Option Int) : Unreadable linux (.call name a p)
  | operator {op : Operator} {a : Expr} (hop : op ≠ .boolNot) (ha : op = .minus → ∀ v q, a ≠ .num v q)
      (p : Option Int) : Unreadable linux (.unary op a p)

/-- The nodes with a fault of their own are the unreadable ones. -/
theorem nodeFault?_isSome_iff {linux : Bool} {x : Expr} :
    (nodeFault? linux x).isSome = true ↔ Unreadable linux x := by
  constructor
  · intro h
    unfold nodeFault? at h
    split at h
    · split at h
      · rename_i hname
        exact .testOfNothing (ofName?_isSome_iff.mp hname) _
      · cases h
    · cases h
    · rename_i hvar
      split at h
      · rename_i hname
        exact .testOfOther (ofName?_isSome_iff.mp hname) (fun y q heq => hvar y q heq) _
      · cases h
    · cases h
    · cases h
    · rename_i hnot hminus
      refine .operator (fun heq => hnot heq) (fun heq v q ha => hminus v q heq ha) _
    · cases h
  · intro h
    cases h with
    | testOfNothing h p =>
        rw [nodeFault?, if_pos (ofName?_isSome_iff.mpr h)]
        rfl
    | @testOfOther name a h ha p =>
        rw [nodeFault?_call, if_pos (ofName?_isSome_iff.mpr h), fault?_testedVariable_some]
        split
        · exact absurd rfl (ha _ _)
        · rfl
    | @operator op a hop ha p =>
        rw [nodeFault?_unary linux hop]
        cases hneg : negatedNumber? op a with
        | none => rfl
        | some v =>
            obtain ⟨hminus, q, heq⟩ := negatedNumber?_eq_some hneg
            exact absurd heq (ha hminus v q)

/-- The fault of a node is one of its meaning. -/
theorem nodeFault?_stage {linux : Bool} {x : Expr} {f : LocatedFault} (h : nodeFault? linux x = some f) :
    f.fault.stage = .semantic := by
  unfold nodeFault? at h
  split at h
  · split at h
    · cases h
      rfl
    · cases h
  · cases h
  · split at h
    · cases h
      rfl
    · cases h
  · cases h
  · cases h
  · cases h
    rfl
  · cases h

/-- **A tree has no extended formula exactly if one of its nodes is unreadable.** -/
theorem exists_extended_error_iff {linux : Bool} {e : Expr} (he : e.Bound) :
    (∃ f, extended linux e = .error f) ↔ ∃ x ∈ e.nodes, Unreadable linux x := by
  have hfirst : ∀ f, extended linux e = .error f ↔ e.nodes.findSome? (nodeFault? linux) = some f := by
    intro f
    rw [extended_eq_plain linux he, ← fault?_extendedPlain linux he, fault?_eq_some_iff]
  simp only [hfirst, ← Option.isSome_iff_exists, List.findSome?_isSome_iff, nodeFault?_isSome_iff]

theorem extended_stage {linux : Bool} {e : Expr} {f : LocatedFault} (he : e.Bound)
    (h : extended linux e = .error f) : f.fault.stage = .semantic := by
  rw [extended_eq_plain linux he, ← fault?_eq_some_iff, fault?_extendedPlain linux he] at h
  obtain ⟨x, -, hx⟩ := List.exists_of_findSome?_eq_some h
  exact nodeFault?_stage hx

/-! ## Both readings -/

/-- **The languages of the readings.**  A tree whose operators are bound has a strict formula exactly if it is
    in the strict language, and it has no extended formula exactly if some node of it is unreadable.  All
    that a reading refuses is refused for its meaning. -/
theorem reading_languages (o : Options) {e : Expr} (he : e.Bound) :
    ((∃ f, strict o e = .ok f) ↔ InStrictLanguage o e)
      ∧ ((∃ f, extended o.linux e = .error f) ↔ ∃ x ∈ e.nodes, Unreadable o.linux x)
      ∧ (∀ f, strict o e = .error f → f.fault.stage = .semantic)
      ∧ ∀ f, extended o.linux e = .error f → f.fault.stage = .semantic := by
  refine ⟨⟨?_, ?_⟩, exists_extended_error_iff he, fun f h => strict_stage he h, fun f h => extended_stage he h⟩
  · rintro ⟨f, hf⟩
    exact (strict_eq_ok_iff.mp hf).inStrictLanguage he
  · intro h
    obtain ⟨f, hf⟩ := h.exists_strictOf
    exact ⟨f, strict_eq_ok_iff.mpr hf⟩

/-- The tree of `!(IS_MODULE(X) && -1) || 2 <= A`. -/
def moduleOrBound : Expr :=
  .binary .boolOr
    (.unary .boolNot
      (.binary .boolAnd (.call "IS_MODULE" (.var "X" none) none)
        (.unary .minus (.num (.int 1) none) none) none) none)
    (.binary .le (.num (.int 2) none) (.var "A" none) none) none

/-- The tree of `f(-A) < 1`, with a sign in the argument of a call. -/
def signedArgument : Expr :=
  .binary .lt (.call "f" (.unary .minus (.var "A" none) none) none) (.num (.int 1) none) none

/-- One tree is in the strict language, and another has a node that is unreadable. -/
theorem reading_languages_moduleOrBound :
    InStrictLanguage ⟨true, true, .refuse⟩ moduleOrBound
      ∧ (∃ f, strict ⟨true, true, .refuse⟩ moduleOrBound = .ok f)
      ∧ ∃ f, extended true signedArgument = .error f := by
  have hmodule : KnownTest true "IS_MODULE" := .inr ⟨rfl, by decide⟩
  have hlanguage : InStrictLanguage ⟨true, true, .refuse⟩ moduleOrBound :=
    .or (.not (.and (.test hmodule _ _ _) (.negative _ _ _) _) _) (.numberVariable rfl rfl _ _ _ _ _) _
  have hbound : moduleOrBound.Bound :=
    ⟨rfl, ⟨rfl, rfl, trivial, rfl, trivial⟩, rfl, trivial, trivial⟩
  have hbound' : signedArgument.Bound := ⟨rfl, ⟨rfl, trivial⟩, trivial⟩
  have hsign : Unreadable true (.unary .minus (.var "A" none) none) :=
    .operator (by decide) (fun _ v q heq => by cases heq) _
  obtain ⟨hstrict, -⟩ := reading_languages ⟨true, true, .refuse⟩ hbound
  obtain ⟨-, hextended, -⟩ := reading_languages ⟨true, true, .refuse⟩ hbound'
  refine ⟨hlanguage, hstrict.mpr hlanguage, hextended.mpr ⟨_, ?_, hsign⟩⟩
  exact List.mem_cons_of_mem _ (List.mem_cons_of_mem _ List.mem_cons_self)

end HashIf.Condition
