import HashIf.Proofs.Runs

/-!
# `HashIf.Proofs.ShownTrees`: a run that shows the tree of its condition

A run can be asked to show the tree of its condition before the formula.  For that the condition is parsed on
its own, before it is read under the policy for invalid conditions.  A condition that has a tree is then read as
without the tree, so the run only prints more.  The same is true of a condition that has no tree, as long as
it is refused anyway.

It is not true where the policy puts something in the place of conditions without tree.  Without the tree such a
run prints what stands in for the condition; with the tree it ends before it comes to the policy, and with
another exit code.  This is the only exception, for all command lines and settings.

## Contents
- `scanArgs_front`, `readLine_parse`: what is read from a command line in front of other arguments.
- `withTree`, `readLine_showTree`: the option that asks for the tree.
- `Extends`: a run that prints more and otherwise ends in the same way.
- `ReplacesUnparsed`, `interpret_replaced`, `interpret_unparsed`: conditions without tree and the policy.
- `runParse_extends_iff`: the exception for a request.
- `tree_extends_iff`: the exception for a command line.
-/

namespace HashIf.Command

open HashIf.Condition (Options Mode InvalidPolicy)

/-! ## The option on a command line -/

section

variable {ι : Type} {specs : List (OptionSpec ι)}

/-- Options that have been read before stay in front and have no influence on what is read behind them. -/
theorem scanArgs_front (isHelp : ι → Bool) (spec : OperandSpec) (front : List (ι × Option String)) (k : Nat)
    (acc : Arguments ι) (args : List (String × ArgKind ι)) :
    scanArgs specs isHelp spec k { acc with options := front ++ acc.options } args
      = (scanArgs specs isHelp spec k acc args).map fun a => { a with options := front ++ a.options } := by
  fun_induction scanArgs specs isHelp spec k acc args with
  | case1 acc args => rw [scanArgs]; rfl
  | case2 => rw [scanArgs]; rfl
  | case3 k acc a rest ih =>
      rw [scanArgs]
      exact ih
  | case4 k acc a use rest f hread =>
      rw [scanArgs, hread]
      rfl
  | case5 k acc a use rest r hread i htake =>
      rw [scanArgs, hread]
      dsimp only
      rw [htake]
      rfl
  | case6 k acc a use rest r hread ts htake ih =>
      rw [scanArgs, hread]
      dsimp only
      rw [htake]
      dsimp only at ih ⊢
      rw [List.append_assoc]
      exact ih
  | case7 k acc a kind rest hforeign hoption operand rest' htaken ih =>
      rw [scanArgs, htaken]
      · exact ih
      · exact hforeign
      · exact hoption
  | case8 k acc a kind rest hforeign hoption htaken ih =>
      rw [scanArgs, htaken]
      · exact ih
      · exact hforeign
      · exact hoption

/-- Telling options from operands changes no argument. -/
theorem map_fst_classifyAll {args : List String} {kinds : List (String × ArgKind ι)}
    (h : classifyAll specs args = .ok kinds) : kinds.map Prod.fst = args := by
  induction args generalizing kinds with
  | nil =>
      cases h
      rfl
  | cons a rest ih =>
      rw [classifyAll] at h
      split at h
      · cases h
        rw [List.map_cons, List.map_map]
        exact congrArg (a :: ·) (List.map_id' rest)
      · split at h
        · cases h
        · split at h
          · cases h
          · rename_i ks hks
            cases h
            rw [List.map_cons, ih hks]

end

/-- The invocation with the tree shown, if it is one that parses a condition. -/
def withTree : Invocation → Invocation
  | .run verbose (.parse i format _) => .run verbose (.parse i format true)
  | other => other

/-- What follows the name of the command is left to the command, unless it can not be told apart. -/
theorem readLine_parse (args : List String) :
    readLine ("parse" :: args) = match classifyAll programOptions args with
      | .error f => .fault .program f
      | .ok _ => readCommand false [] .parse args := by
  have hcommand : classify programOptions "parse" = .ok .operand := rfl
  unfold readLine scan
  rw [classifyAll, if_neg (by decide), hcommand]
  cases hkinds : classifyAll programOptions args with
  | error f => rfl
  | ok kinds =>
      have hscan : scanArgs programOptions isHelp .command (kinds.length + 1 + 1) ⟨[], [], []⟩
          (("parse", .operand) :: kinds) = .ok ⟨[], "parse" :: args, []⟩ := by
        rw [← map_fst_classifyAll hkinds]
        rfl
      dsimp only
      rw [List.length_cons, hscan]
      rfl

/-- The last use of any other option is the same with the tree asked for in front. -/
theorem lastUse_showTree {id : OptionId} (h : id ≠ .showTree) (options : List (OptionId × Option String)) :
    lastUse ((.showTree, none) :: options) id = lastUse options id := by
  have hne : (id == OptionId.showTree) = false := beq_eq_false_iff_ne.mpr h
  unfold lastUse
  rw [List.reverse_cons, List.lookup_append]
  simp [List.lookup, hne]

/-- With the tree asked for, the same is parsed in the same way and printed in the same format. -/
theorem requestOf_showTree (options : List (OptionId × Option String)) (condition : String) :
    Invocation.run false (requestOf .parse ((.showTree, none) :: options) condition)
      = withTree (.run false (requestOf .parse options condition)) := by
  have hshown : given ((.showTree, none) :: options) .showTree = true := by
    unfold given lastUse
    rw [List.reverse_cons, List.lookup_append]
    simp
  unfold requestOf
  dsimp only [withTree]
  rw [hshown]
  unfold interpretationOf configArgument given lastValue
  simp (disch := decide) only [lastUse_showTree]

theorem readCommand_showTree (args : List String) :
    readCommand false [] .parse ("--show-ast" :: args) = withTree (readCommand false [] .parse args) := by
  have hkind : classify (commandOptions .parse) "--show-ast"
      = .ok (.option ⟨flagSpec .showTree ["--show-ast"], "--show-ast", none⟩) := rfl
  unfold readCommand scan
  rw [classifyAll, if_neg (by decide), hkind]
  cases hkinds : classifyAll (commandOptions .parse) args with
  | error f => rfl
  | ok kinds =>
      have hscan : scanArgs (commandOptions .parse) isHelp .single (kinds.length + 1 + 1) ⟨[], [], []⟩
            (("--show-ast", .option ⟨flagSpec .showTree ["--show-ast"], "--show-ast", none⟩) :: kinds)
          = (scanArgs (commandOptions .parse) isHelp .single (kinds.length + 1) ⟨[], [], []⟩ kinds).map
              fun a => { a with options := (.showTree, none) :: a.options } :=
        scanArgs_front isHelp .single [(.showTree, none)] _ ⟨[], [], []⟩ kinds
      dsimp only
      rw [List.length_cons, hscan]
      cases scanArgs (commandOptions .parse) isHelp .single (kinds.length + 1) ⟨[], [], []⟩ kinds with
      | error i => cases i <;> rfl
      | ok a =>
          dsimp only [Except.map]
          cases a.operand with
          | nil => rfl
          | cons condition _ =>
              dsimp only
              split
              · exact requestOf_showTree a.options condition
              · rfl

/-- **The option changes nothing but that the tree is shown**, whatever else is on the command line. -/
theorem readLine_showTree (args : List String) :
    readLine ("parse" :: "--show-ast" :: args) = withTree (readLine ("parse" :: args)) := by
  have hforeign : classify programOptions "--show-ast" = .ok .foreign := rfl
  rw [readLine_parse, readLine_parse, classifyAll, if_neg (by decide), hforeign]
  cases classifyAll programOptions args with
  | error f => rfl
  | ok kinds => exact readCommand_showTree args

/-! ## What the tree adds -/

/-- The second of two runs ends as the first one does: with the same exit code and with all that the first one
    prints behind what it adds, or without an outcome for the same reason. -/
inductive Extends : Except Abort (Nat × String) → Except Abort (Nat × String) → Prop where
  | ended (code : Nat) (added output : String) : Extends (.ok (code, output)) (.ok (code, added ++ output))
  | aborted (a : Abort) : Extends (.error a) (.error a)

theorem Extends.of_added (r : Except Abort (Nat × String)) (added : String) :
    Extends r (r.map fun p => (p.1, added ++ p.2)) := by
  cases r with
  | error a => exact .aborted a
  | ok p => exact .ended p.1 added p.2

theorem Extends.refl (r : Except Abort (Nat × String)) : Extends r r := by
  cases r with
  | error a => exact .aborted a
  | ok p =>
      have h := Extends.ended p.1 "" p.2
      rwa [String.empty_append] at h

theorem Extends.exitCode_eq {p q : Nat × String} (h : Extends (.ok p) (.ok q)) : q.1 = p.1 := by
  cases h
  rfl

/-! ## Conditions without tree -/

/-- The strict reading puts something in the place of a condition without tree, unless it is refused. -/
theorem interpret_replaced [CallStack] {o : Options} {text : String} {r : Rejection}
    (hparse : Expr.parse text = .error (.rejected r)) (hpolicy : o.invalid ≠ .refuse) :
    ∃ g : Formula, g.Known ∧ (Condition.interpret .strict o text).result = .ok g := by
  have hstrict : Condition.strictFormula o text = .error (.rejected r) := by
    rw [Condition.strictFormula, hparse]
  unfold Condition.interpret Condition.interpretStrict
  rw [hstrict]
  cases hinvalid : o.invalid with
  | refuse => exact absurd hinvalid hpolicy
  | assumeTrue => exact ⟨.const true, trivial, rfl⟩
  | errorVariable => exact ⟨.var Condition.errorVariableName, trivial, rfl⟩

/-- In all other cases its failure is that of the parser. -/
theorem interpret_unparsed [CallStack] {mode : Mode} {o : Options} {text : String} {failure : Failure}
    (hparse : Expr.parse text = .error failure)
    (hkept : ¬ (mode = .strict ∧ o.invalid ≠ .refuse ∧ ∃ r, failure = .rejected r)) :
    (Condition.interpret mode o text).result = .error failure := by
  have hextended : Condition.extendedFormula o.linux text = .error failure := by
    rw [Condition.extendedFormula, hparse]
  cases mode with
  | extended | tree => exact hextended
  | strict =>
      have hstrict : Condition.strictFormula o text = .error failure := by
        rw [Condition.strictFormula, hparse]
      unfold Condition.interpret Condition.interpretStrict
      rw [hstrict]
      cases failure with
      | numeralTooLong n => rfl
      | rejected r =>
          have hrefuse : o.invalid = .refuse := by
            by_contra hpolicy
            exact hkept ⟨rfl, hpolicy, r, rfl⟩
          rw [hrefuse]
          rfl

/-- The condition has no tree, and the policy of the run puts something in its place. -/
def ReplacesUnparsed [CallStack] (w : World) (i : Interpretation) : Prop :=
  ∃ o r, optionsOf w i = some o ∧ modeOf i = .strict ∧ o.invalid ≠ .refuse
    ∧ Expr.parse i.condition = .error (.rejected r)

/-! ## Runs with and without the tree -/

section

variable {w : World} {i : Interpretation} {o : Options}

/-- What is printed for the formula of a condition. -/
def formulaRun [CallStack] (w : World) (i : Interpretation) (format : OutputFormat) (o : Options) :
    Except Abort Outcome :=
  withFormula (modeOf i) o i.condition fun f => orUnknown (exported w format f)

theorem shown_runParse_plain [CallStack] (ho : optionsOf w i = some o) (format : OutputFormat) :
    shown (runParse w i format false) = shown (formulaRun w i format o) := by
  unfold runParse
  rw [shown_withSettings ho]
  exact shown_after_records _ _

theorem shown_runParse_tree [CallStack] (ho : optionsOf w i = some o) (format : OutputFormat) :
    shown (runParse w i format true) = match Expr.parse i.condition with
      | .ok e => (shown (formulaRun w i format o)).map fun p => (p.1, Console.tree e ++ p.2)
      | .error failure => shown (failed failure) := by
  unfold runParse
  rw [shown_withSettings ho]
  dsimp only
  rw [shown_after_records, if_neg (by decide)]
  cases Expr.parse i.condition with
  | ok e => exact shown_after _ _ _
  | error failure => exact shown_after_records _ _

/-- What stands in for a condition is never reported as invalid. -/
theorem exitCode_replaced [CallStack] {g : Formula} (hg : g.Known)
    (hread : (Condition.interpret (modeOf i) o i.condition).result = .ok g) (format : OutputFormat) :
    ∃ code output, shown (formulaRun w i format o) = .ok (code, output) ∧ code ≠ 1 := by
  obtain ⟨out, hout, hcode⟩ := exists_exported w format hg
  refine ⟨out.exitCode, out.stdout, ?_, by omega⟩
  rw [formulaRun, shown_withFormula hread, hout]
  rfl

end

/-- **Showing the tree only adds output, with one exception.** -/
theorem runParse_extends_iff [CallStack] (w : World) (i : Interpretation) (format : OutputFormat) :
    Extends (shown (runParse w i format false)) (shown (runParse w i format true))
      ↔ ¬ ReplacesUnparsed w i := by
  cases ho : optionsOf w i with
  | none =>
      have hsame : runParse w i format true = runParse w i format false := withSettings_none ho _ _
      rw [hsame]
      refine iff_of_true (.refl _) ?_
      rintro ⟨o, r, ho', -⟩
      rw [ho] at ho'
      cases ho'
  | some o =>
      rw [shown_runParse_plain ho, shown_runParse_tree ho]
      cases hparse : Expr.parse i.condition with
      | ok e =>
          refine iff_of_true (.of_added _ _) ?_
          rintro ⟨o', r, -, -, -, hparse'⟩
          rw [hparse] at hparse'
          cases hparse'
      | error failure =>
          by_cases hreplaced : modeOf i = .strict ∧ o.invalid ≠ .refuse ∧ ∃ r, failure = .rejected r
          · obtain ⟨hmode, hpolicy, r, rfl⟩ := hreplaced
            obtain ⟨g, hg, hread⟩ := interpret_replaced hparse hpolicy
            rw [← hmode] at hread
            obtain ⟨code, output, hshown, hcode⟩ := exitCode_replaced hg hread format
            rw [hshown]
            refine iff_of_false ?_ (not_not_intro ⟨o, r, ho, hmode, hpolicy, hparse⟩)
            -- The run with the tree reports the condition as invalid.
            intro h
            exact hcode h.exitCode_eq.symm
          · have hread := interpret_unparsed hparse hreplaced
            rw [formulaRun, shown_withFormula_error hread]
            refine iff_of_true (.refl _) ?_
            rintro ⟨o', r, ho', hmode, hpolicy, hparse'⟩
            rw [ho] at ho'
            rw [hparse] at hparse'
            cases ho'
            cases hparse'
            exact hreplaced ⟨hmode, hpolicy, r, rfl⟩

/-- **Showing the tree only adds output, with one exception.**  For every condition, all options and all settings,
    the run of a request with the tree ends with the same exit code as without it and with the same output
    behind the tree, unless the condition has no tree and the policy puts something in its place.  In terms of
    command lines: this is what `--show-ast` does in front of any other arguments. -/
theorem tree_extends_iff [CallStack] (w : World) :
    (∀ i format, Extends (shown (runParse w i format false)) (shown (runParse w i format true))
        ↔ ¬ ReplacesUnparsed w i)
      ∧ ∀ args, Extends (shown (run w ("parse" :: args))) (shown (run w ("parse" :: "--show-ast" :: args)))
        ↔ ¬ ∃ verbose i format, readLine ("parse" :: args) = .run verbose (.parse i format false)
            ∧ ReplacesUnparsed w i := by
  refine ⟨runParse_extends_iff w, fun args => ?_⟩
  unfold run
  rw [readLine_showTree]
  -- The exception concerns a run that parses a condition and does not show the tree yet.
  match hline : readLine ("parse" :: args) with
  | .run verbose (.parse i format false) =>
      rw [withTree, shown_keepRecords, shown_keepRecords]
      refine (runParse_extends_iff w i format).trans (not_congr ⟨?_, ?_⟩)
      · intro h
        exact ⟨verbose, i, format, rfl, h⟩
      · rintro ⟨_, _, _, heq, h⟩
        cases heq
        exact h
  | .run verbose (.parse i format true) | .run verbose (.names i) | .run verbose (.tokens c) | .help t | .nothing
  | .fault t f =>
      refine iff_of_true (.refl _) ?_
      rintro ⟨_, _, _, heq, -⟩
      cases heq

/-- The arguments `--invalid true` and a condition without tree. -/
def replacingArgs : List String := ["--invalid", "true", "defined(A) || "]

/-- The interpretation that these arguments ask for. -/
def replacingUnparsed : Interpretation :=
  { condition := "defined(A) || "
    nonBoolean := false
    fuzzy := false
    linuxMacros := false
    invalid := some .assumeTrue
    config := .absent }

/-- **The exception does occur.**  Without the tree a condition without tree is replaced, as it was asked for; with
    the tree it is reported as invalid. -/
theorem tree_not_extends_unparsed :
    shown (run bareWorld ("parse" :: replacingArgs)) = .ok (0, "1\n")
      ∧ shown (run bareWorld ("parse" :: "--show-ast" :: replacingArgs)) = .ok (1, "")
      ∧ ¬ Extends (shown (run bareWorld ("parse" :: replacingArgs)))
          (shown (run bareWorld ("parse" :: "--show-ast" :: replacingArgs))) := by
  have hrequest : requestOf .parse [(.invalid, some "true")] "defined(A) || "
      = .parse replacingUnparsed .text false := by
    cbv
  have hline : readLine ("parse" :: replacingArgs) = .run false (.parse replacingUnparsed .text false) := by
    rw [← hrequest]
    rfl
  have hoptions : optionsOf bareWorld replacingUnparsed = some ⟨false, false, .assumeTrue⟩ := rfl
  have hparse : Expr.parse replacingUnparsed.condition
      = .error (.rejected ⟨.missingSide, some "defined(A) || ", [11]⟩) := by
    cbv
  have hread : (Condition.interpret (modeOf replacingUnparsed) ⟨false, false, .assumeTrue⟩
      replacingUnparsed.condition).result = .ok (.const true) := by
    show (Condition.underPolicy _ _ (Condition.strictFormula _ _)).result = _
    rw [Condition.strictFormula, hparse]
    rfl
  have hplain : shown (run bareWorld ("parse" :: replacingArgs)) = .ok (0, "1\n") := by
    unfold run
    rw [hline, shown_keepRecords, runRequest, shown_runParse_plain hoptions, formulaRun, shown_withFormula hread,
      exported, Formula.toText]
    rfl
  have htree : shown (run bareWorld ("parse" :: "--show-ast" :: replacingArgs)) = .ok (1, "") := by
    unfold run
    rw [readLine_showTree, hline, withTree, shown_keepRecords, runRequest, shown_runParse_tree hoptions, hparse]
    rfl
  refine ⟨hplain, htree, fun h => ?_⟩
  rw [hplain, htree] at h
  cases h.exitCode_eq

end HashIf.Command
