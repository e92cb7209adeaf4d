import HashIf.Condition.Session

/-!
# `HashIf.Proofs.Sessions`: an interpreter carries nothing from step to step

A session holds two texts besides its options, and one of them outlives the step that put it there.  No
answer shows it: the text that is being read is let go at the end of every step, whatever the step gives,
and the text for faults of binding is replaced before such a fault can arise.  So a step is answered as by
an interpreter that has read nothing yet and has the options of the moment.

## Contents
- `Step.update`, `optionsAfter`: the options of the moment.
- `Session.Idle`: no text is being read.
- `Session.step_snd`, `Session.step_fst`: what one step leaves behind, and what it answers.
- `Session.run_getElem?`: the answers to a row of requests.
- `Session.run_answers_fresh`: the same for a session from its start, with what is shown of trees.
-/

namespace HashIf.Condition

/-! ## The options of the moment -/

/-- The options after a request. -/
def Step.update (request : Step) (o : Options) : Options :=
  match request with
  | .set linux fuzzy invalid => Session.assign o linux fuzzy invalid
  | _ => o

/-- The options after a row of requests. -/
def optionsAfter (o : Options) (requests : List Step) : Options :=
  requests.foldl (fun current request => request.update current) o

namespace Session

/-! ## One step -/

/-- No text is being read. -/
def Idle (s : Session) : Prop := s.active = none

/-- **A step leaves an idle session behind**, with the options that were asked for; only the text for
    faults of binding may be another one. -/
theorem step_snd [CallStack] {s : Session} (h : s.Idle) (request : Step) :
    ∃ bound, (s.step request).2 = ⟨s.mode, request.update s.options, none, bound⟩ := by
  obtain ⟨mode, o, active, bound⟩ := s
  obtain rfl : active = none := h
  cases request with
  | read text =>
      cases mode with
      | tree => exact parse_snd ⟨.tree, o, none, bound⟩ text
      | strict => exact read_snd ⟨.strict, o, none, bound⟩ text
      | extended => exact read_snd ⟨.extended, o, none, bound⟩ text
  | formulaOf e => exact ⟨bound, rfl⟩
  | set linux fuzzy invalid => exact ⟨bound, rfl⟩

/-- **An idle session answers as one that has read nothing yet.** -/
theorem step_fst [CallStack] {s : Session} (h : s.Idle) (request : Step) :
    (s.step request).1 = ((start s.mode s.options).step request).1 := by
  obtain ⟨mode, o, active, bound⟩ := s
  obtain rfl : active = none := h
  cases request with
  | read text =>
      cases mode with
      | tree => simp only [step, start, parse_fst]
      | strict => simp only [step, start, read_fst]
      | extended => simp only [step, start, read_fst]
  | formulaOf e => rfl
  | set linux fuzzy invalid => rfl

/-! ## A row of steps -/

/-- **Each answer of an idle session is that of a fresh one with the options of the moment.**  The
    induction is on the requests; what is carried along is that the session is idle. -/
theorem run_getElem? [CallStack] {s : Session} (h : s.Idle) (requests : List Step) (i : Nat) :
    (s.run requests)[i]? = requests[i]?.map fun request =>
      ((start s.mode (optionsAfter s.options (requests.take i))).step request).1 := by
  induction requests generalizing s i with
  | nil => rfl
  | cons request rest ih =>
      cases i with
      | zero =>
          rw [run, List.getElem?_cons_zero, step_fst h]
          rfl
      | succ i =>
          obtain ⟨bound, hafter⟩ := step_snd h request
          have hidle : Idle ⟨s.mode, request.update s.options, none, bound⟩ := rfl
          rw [run, List.getElem?_cons_succ, hafter, ih hidle]
          rfl

/-- A fault of a tree that belongs to no text is shown without one. -/
theorem treeFormula_fault {mode : Mode} {o : Options} {e : Expr} {f : Failure}
    (h : treeFormula mode o none e = .error f) :
    ∃ r, f = .rejected r ∧ r.condition = none ∧ f.render = r.fault.message := by
  obtain ⟨fault, -, rfl⟩ := shownIn_eq_error_iff.mp h
  exact ⟨_, rfl, rfl, rfl⟩

/-- **An interpreter carries nothing from step to step.**  In every row of requests, each one is answered
    as by a fresh interpreter with the options of the moment, whatever was read before and whatever came
    of it.  In particular the fault of a tree that belongs to no text is never shown in an earlier
    text. -/
theorem run_answers_fresh [CallStack] (mode : Mode) (o : Options) (requests : List Step) (i : Nat) :
    ((start mode o).run requests)[i]? = requests[i]?.map (fun request =>
        ((start mode (optionsAfter o (requests.take i))).step request).1)
      ∧ ∀ e, requests[i]? = some (.formulaOf e) →
        ∃ result, ((start mode o).run requests)[i]? = some (.formula ⟨result, none⟩)
          ∧ ∀ f, result = .error f →
            ∃ r, f = .rejected r ∧ r.condition = none ∧ f.render = r.fault.message := by
  have hrun := run_getElem? (s := start mode o) rfl requests i
  refine ⟨hrun, fun e he => ?_⟩
  rw [he] at hrun
  exact ⟨_, hrun, fun f hf => treeFormula_fault hf⟩

/-- Two texts that are replaced, the first one by a fault of binding and the second one by a bracket that
    is missing, and then a tree on its own. -/
def replacedThenTree : List Step :=
  [.read "1 2", .set none none (some .errorVariable), .read "(A", .formulaOf (.var "A" (some 0))]

theorem run_answers_fresh_replacedThenTree :
    ((start .strict ⟨false, false, .assumeTrue⟩).run replacedThenTree)[2]?
        = some (.formula (interpretStrict ⟨false, false, .errorVariable⟩ "(A"))
      ∧ ∃ r, ((start .strict ⟨false, false, .assumeTrue⟩).run replacedThenTree)[3]?
          = some (.formula ⟨.error (.rejected r), none⟩)
        ∧ r.condition = none ∧ r.render = "Found variable outside of defined() call: A" := by
  obtain ⟨hread, -⟩ := run_answers_fresh .strict ⟨false, false, .assumeTrue⟩ replacedThenTree 2
  obtain ⟨htree, hshown⟩ := run_answers_fresh .strict ⟨false, false, .assumeTrue⟩ replacedThenTree 3
  refine ⟨?_, ?_⟩
  · have hfresh := read_fst (start .strict ⟨false, false, .errorVariable⟩) "(A"
    exact hread.trans (congrArg (fun r => some (StepResult.formula r)) hfresh)
  · obtain ⟨result, hresult, hfault⟩ := hshown _ rfl
    have hvalue : result = .error (.rejected ⟨.bareVariable "A", none, [0]⟩) := by
      have hstrict : treeFormula .strict ⟨false, false, .errorVariable⟩ none (.var "A" (some 0))
          = .error (.rejected ⟨.bareVariable "A", none, [0]⟩) := by
        show shownIn none (strict _ (.var "A" (some 0))) = _
        rw [strict]
        rfl
      rw [hresult] at htree
      cases htree
      exact hstrict
    obtain ⟨r, hr, hcondition, hrender⟩ := hfault _ hvalue
    cases hr
    exact ⟨_, hvalue ▸ hresult, hcondition, hrender⟩

end Session

end HashIf.Condition
