import HashIf.Proofs.ResolvedTrees
import HashIf.Proofs.StrictTree

/-!
# `HashIf.Proofs.WiderOptions`: more options give more formulas, and no other ones

An option that is turned on gives a strict formula to conditions that had none.  A condition that has one keeps
it: every rule of the strict reading asks for options to be on, and none asks for one to be off.  So options
only decide whether a condition has a formula, never which one.  Nor do they decide how many frames it takes to
make it.

## Contents
- `Options.Within`: options that are all on in others.
- `ConfigTest.ofName?_of_linux`, `StrictOf.widen`: a rule that applies still applies under more options.
- `StrictOf.strictFrames_widen`: a tree with a formula needs the same frames under more options.
- `strictFormula_widen`: a text keeps its formula.
- `strictFormula_unique`: two options that give formulas give the same one.
- `interpretStrict_options_on`: turning on either option or both.
-/

namespace HashIf.Condition

/-- What is turned on in `o` is turned on in `o'`. -/
structure Options.Within (o o' : Options) : Prop where
  linux : o.linux = true → o'.linux = true
  fuzzy : o.fuzzy = true → o'.fuzzy = true

/-- A test that is known stays the same test when more of them are known. -/
theorem ConfigTest.ofName?_of_linux {linux linux' : Bool} {name : String} {t : ConfigTest}
    (hlinux : linux = true → linux' = true) (h : ofName? linux name = some t) :
    ofName? linux' name = some t := by
  cases linux with
  | true =>
      rw [hlinux rfl]
      exact h
  | false =>
      -- Only `defined` is known, which is looked up before the option is.
      unfold ofName? at h ⊢
      by_cases hname : (name == Expr.definedName) = true
      · rw [if_pos hname] at h ⊢
        exact h
      · rw [if_neg hname] at h
        cases h

/-- **A tree keeps its strict formula when options are turned on.** -/
theorem StrictOf.widen {o o' : Options} (hon : o.Within o') {e : Expr} {f : Formula} (h : StrictOf o e f) :
    StrictOf o' e f := by
  induction h with
  | number v p => exact .number v p
  | negative h => exact .negative h
  | test p q ht => exact .test p q (ConfigTest.ofName?_of_linux hon.linux ht)
  | bare x p hfuzzy => exact .bare x p (hon.fuzzy hfuzzy)
  | comparison p hfuzzy hop hname => exact .comparison p (hon.fuzzy hfuzzy) hop hname
  | not h _ ih => exact .not h ih
  | connective p hop _ _ ihl ihr => exact .connective p hop ihl ihr

/-- A tree with a strict formula needs the same frames when options are turned on. -/
theorem StrictOf.strictFrames_widen {o o' : Options} (hon : o.Within o') {e : Expr} {f : Formula}
    (h : StrictOf o e f) : strictFrames o' e = strictFrames o e := by
  induction h with
  | number | test | bare => rfl
  | negative h =>
      rcases Expr.firstOperand?_eq_some h with ⟨q, rfl⟩ | ⟨r, q, rfl⟩ <;> rfl
  | @comparison op l r name p hfuzzy hop hname =>
      have hconnective : op.isConnective = false := by
        cases op with
        | boolAnd | boolOr => cases hop
        | _ => rfl
      simp only [strictFrames, hconnective]
      rfl
  | not h _ ih =>
      rcases Expr.firstOperand?_eq_some h with ⟨q, rfl⟩ | ⟨r, q, rfl⟩
      · simp only [strictFrames, ih]
      · rfl
  | connective p hop hl _ ihl ihr =>
      rw [strictFrames, strictFrames, ihl, ihr, hl.strict_eq, (hl.widen hon).strict_eq]

/-- **A text keeps its strict formula when options are turned on.** -/
theorem strictFormula_widen [CallStack] {o o' : Options} (hon : o.Within o') {text : String} {f : Formula}
    (h : strictFormula o text = .ok f) : strictFormula o' text = .ok f := by
  obtain ⟨e, hparse, hroom, hstrict⟩ := strictFormula_eq_ok_iff.mp h
  have hof := strict_eq_ok_iff.mp hstrict
  rw [← hof.strictFrames_widen hon] at hroom
  exact strictFormula_eq_ok_iff.mpr ⟨e, hparse, hroom, (hof.widen hon).strict_eq⟩

/-- **Options never change a formula.**  Wherever two readings of a text both give a formula, it is the same
    one, since both readings go over into the one with the options of either. -/
theorem strictFormula_unique [CallStack] {o o' : Options} {text : String} {f g : Formula}
    (hf : strictFormula o text = .ok f) (hg : strictFormula o' text = .ok g) : f = g := by
  have hleft : o.Within ⟨o.linux || o'.linux, o.fuzzy || o'.fuzzy, o.invalid⟩ :=
    ⟨fun h => by simp [h], fun h => by simp [h]⟩
  have hright : o'.Within ⟨o.linux || o'.linux, o.fuzzy || o'.fuzzy, o.invalid⟩ :=
    ⟨fun h => by simp [h], fun h => by simp [h]⟩
  have heq := (strictFormula_widen hleft hf).symm.trans (strictFormula_widen hright hg)
  exact Except.ok.inj heq

/-- **Turning options on is a conservative extension.**  A text that is read as a formula is read as the same
    formula if the tests of the build configuration are made known, if comparisons and bare variables are
    encoded, and if both is done. -/
theorem interpretStrict_options_on [CallStack] {linux fuzzy : Bool} {text : String} {f : Formula}
    (h : (interpretStrict ⟨linux, fuzzy, .refuse⟩ text).result = .ok f) :
    (interpretStrict ⟨true, fuzzy, .refuse⟩ text).result = .ok f
      ∧ (interpretStrict ⟨linux, true, .refuse⟩ text).result = .ok f
      ∧ (interpretStrict ⟨true, true, .refuse⟩ text).result = .ok f := by
  have hlinux : Options.Within ⟨linux, fuzzy, .refuse⟩ ⟨true, fuzzy, .refuse⟩ := ⟨fun _ => rfl, id⟩
  have hfuzzy : Options.Within ⟨linux, fuzzy, .refuse⟩ ⟨linux, true, .refuse⟩ := ⟨id, fun _ => rfl⟩
  have hboth : Options.Within ⟨linux, fuzzy, .refuse⟩ ⟨true, true, .refuse⟩ := ⟨fun _ => rfl, fun _ => rfl⟩
  rw [interpretStrict_refuse rfl] at h
  refine ⟨?_, ?_, ?_⟩ <;> rw [interpretStrict_refuse rfl]
  · exact strictFormula_widen hlinux h
  · exact strictFormula_widen hfuzzy h
  · exact strictFormula_widen hboth h

/-- The strict formula of `2<A||!defined B`, whose comparison is encoded. -/
def boundOrUndefined : Formula := .or (.var "A_gt_2") (.not (.var "B"))

theorem interpretStrict_options_on_bound :
    (interpretStrict ⟨false, true, .refuse⟩ "2<A||!defined B").result = .ok boundOrUndefined
      ∧ (interpretStrict ⟨true, true, .refuse⟩ "2<A||!defined B").result = .ok boundOrUndefined := by
  have hread : (interpretStrict ⟨false, true, .refuse⟩ "2<A||!defined B").result
      = .ok boundOrUndefined := by cbv
  exact ⟨hread, (interpretStrict_options_on hread).1⟩

end HashIf.Condition
