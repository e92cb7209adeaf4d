import HashIf.Command.Run
import HashIf.Proofs.Numbering
import HashIf.Proofs.PlainTexts
import HashIf.Proofs.Support

/-!
# `HashIf.Proofs.Runs`: what a run shows

A run is put together from steps that each add records: finding the settings, reading the condition, writing the
formula.  Records are neither part of the exit code nor of the standard output, so for these two only
the last step counts, the one that the run ends with.

## Contents
- `shown`, `shown_after`, `shown_keepRecords`: the exit code of a run and its standard output.
- `optionsOf`, `shown_withSettings`, `withSettings_none`: settings that can be had and others.
- `shown_withFormula`, `shown_withFormula_error`: conditions that are read and others.
- `exists_exported`: what is printed for a formula.
-/

namespace HashIf.Command

open HashIf.Condition (Options Mode)

/-- A world without files. -/
def bareWorld : World := ⟨fun _ => none, true⟩

/-! ## Exit code and standard output -/

/-- The exit code and the standard output of a run. -/
def shown (r : Except Abort Outcome) : Except Abort (Nat × String) :=
  r.map fun o => (o.exitCode, o.stdout)

/-- What is printed before a run stands in front of what the run prints. -/
theorem shown_after (r : Except Abort Outcome) (text : String) (records : List LogRecord) :
    shown (r.map (·.after text records)) = (shown r).map fun p => (p.1, text ++ p.2) := by
  cases r <;> rfl

/-- Records alone are not shown. -/
theorem shown_after_records (r : Except Abort Outcome) (records : List LogRecord) :
    shown (r.map (·.after "" records)) = shown r := by
  rw [shown_after]
  cases r with
  | error e => rfl
  | ok o => exact congrArg (fun text => Except.ok (o.exitCode, text)) (String.empty_append)

/-- Leaving out records changes nothing of what is shown. -/
theorem shown_keepRecords (r : Except Abort Outcome) (verbose : Bool) :
    shown (r.map fun o => { o with records := keepRecords verbose o.records }) = shown r := by
  cases r <;> rfl

/-! ## Settings -/

/-- The options that an interpretation comes to, if its settings can be had: those of the settings with the
    command line on top. -/
def optionsOf (w : World) (i : Interpretation) : Option Options :=
  match sourceOf i with
  | .error _ => none
  | .ok source => (Settings.load w.files source).1.toOption.map (overridden i)

/-- With settings a run goes on. -/
theorem shown_withSettings {w : World} {i : Interpretation} {o : Options} (h : optionsOf w i = some o)
    (k : Options → Except Abort Outcome) : shown (withSettings w i k) = shown (k o) := by
  unfold optionsOf at h
  unfold withSettings
  cases hsource : sourceOf i with
  | error e =>
      rw [hsource] at h
      cases h
  | ok source =>
      rw [hsource] at h
      dsimp only at h ⊢
      cases hload : (Settings.load w.files source).1 with
      | error fault =>
          rw [hload] at h
          cases h
      | ok o' =>
          rw [hload] at h
          cases h
          exact shown_after_records _ _

/-- Without settings a run ends, however it would have gone on. -/
theorem withSettings_none {w : World} {i : Interpretation} (h : optionsOf w i = none)
    (k k' : Options → Except Abort Outcome) : withSettings w i k = withSettings w i k' := by
  unfold optionsOf at h
  unfold withSettings
  cases hsource : sourceOf i with
  | error e => rfl
  | ok source =>
      rw [hsource] at h
      dsimp only at h ⊢
      cases hload : (Settings.load w.files source).1 with
      | error fault => rfl
      | ok o' =>
          rw [hload] at h
          cases h

/-! ## Conditions -/

/-- A condition that is read is gone on with. -/
theorem shown_withFormula [CallStack] {mode : Mode} {o : Options} {text : String} {f : Formula}
    (h : (Condition.interpret mode o text).result = .ok f) (k : Formula → Outcome) :
    shown (withFormula mode o text k) = .ok ((k f).exitCode, (k f).stdout) := by
  unfold withFormula
  rw [shown_after_records, h]
  rfl

/-- The run of a condition that is not read ends with its failure. -/
theorem shown_withFormula_error [CallStack] {mode : Mode} {o : Options} {text : String} {failure : Failure}
    (h : (Condition.interpret mode o text).result = .error failure) (k : Formula → Outcome) :
    shown (withFormula mode o text k) = shown (failed failure) := by
  unfold withFormula
  rw [shown_after_records, h]
  rfl

theorem toText_of_known {f : Formula} (hf : f.Known) : f.toText = .ok f.plainText := by
  rw [Formula.toText_eq, Formula.firstUnknown?_eq_none_iff.mpr (Formula.known_iff.mp hf)]
  rfl

/-- **A formula without nodes of an unknown kind is printed in every format**, or the format is not available; it
    is never the formula that is at fault. -/
theorem exists_exported (w : World) (format : OutputFormat) {f : Formula} (hf : f.Known) :
    ∃ o, exported w format f = .ok o ∧ (o.exitCode = 0 ∨ o.exitCode = 2) := by
  obtain ⟨g, hg, -⟩ := Formula.exists_toGraph hf
  unfold exported
  cases format with
  | text =>
      rw [toText_of_known hf]
      exact ⟨_, rfl, .inl rfl⟩
  | json | graphml =>
      rw [hg]
      exact ⟨_, rfl, .inl rfl⟩
  | dot =>
      rw [hg]
      refine ⟨_, rfl, ?_⟩
      cases w.dotAvailable with
      | true => exact .inl rfl
      | false => exact .inr rfl

end HashIf.Command
