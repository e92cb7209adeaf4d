import HashIf.Proofs.Evaluation

/-!
# `HashIf.Proofs.Preorder`: the nodes of a formula, and the first that is not strict

Whether a formula is propositional is decided three times: by the declaration of the strict kinds, by the check
of a formula, and by the machine that evaluates it.  The three agree, and the list of the nodes in pre-order
says how.  The machine goes through the nodes in this order and skips none, so it stops at the first node
outside of the strict family, whatever the values are that it has put together until then.

## Contents
- `preorder`: the nodes of a formula, a node before its operands and the left one before the right one.
- `extendedKind?`, `firstExtended?`: the kinds outside of the strict family.
- `firstExtended?_eq_none_iff`: a formula without such nodes is propositional.
- `runTasks_visit_extended`: the machine stops at the first of them.
- `evaluate_strictness`: the three checks agree.
-/

namespace HashIf.Formula

/-! ## The nodes of a formula -/

/-- The nodes of a formula, each with everything below it: a node before its operands, and the left operand
    before the right one. -/
def preorder : Formula → List Formula
  | not f => not f :: f.preorder
  | call name f => call name f :: f.preorder
  | and l r => and l r :: (l.preorder ++ r.preorder)
  | or l r => or l r :: (l.preorder ++ r.preorder)
  | kept op l r => kept op l r :: (l.preorder ++ r.preorder)
  | f => [f]

/-- Every node is listed once. -/
theorem length_preorder (f : Formula) : f.preorder.length = f.size := by
  induction f with
  | const | var | lit | emptyCall | unknown => rfl
  | not f ih | call name f ih =>
      simp only [preorder, size, List.length_cons, ih]
      omega
  | and l r ihl ihr | or l r ihl ihr | kept op l r ihl ihr =>
      simp only [preorder, size, List.length_cons, List.length_append, ihl, ihr]
      omega

/-- The root comes first. -/
theorem preorder_head? (f : Formula) : f.preorder.head? = some f := by
  cases f <;> rfl

/-! ## Nodes outside of the strict family -/

/-- The name of the kind of a node, if it is not one of the strict family. -/
def extendedKind? : Formula → Option String
  | const _ | var _ | not _ | and _ _ | or _ _ => none
  | lit _ => some "Literal"
  | kept _ _ _ => some "NonBooleanOperator"
  | emptyCall _ | call _ _ => some "Macro"
  | unknown _ => some "str"

/-- The kind of the first node that is not of the strict family. -/
def firstExtended? (f : Formula) : Option String := f.preorder.findSome? extendedKind?

theorem firstExtended?_binary {f l r : Formula} (hf : f.preorder = f :: (l.preorder ++ r.preorder))
    (hkind : f.extendedKind? = none) : f.firstExtended? = l.firstExtended?.or r.firstExtended? := by
  unfold firstExtended?
  rw [hf, List.findSome?_cons, hkind, List.findSome?_append]

/-- **A formula is propositional exactly if all of its nodes are of the strict family.** -/
theorem firstExtended?_eq_none_iff (f : Formula) : f.firstExtended? = none ↔ f.Propositional := by
  induction f with
  | const | var => exact ⟨fun _ => trivial, fun _ => rfl⟩
  | not f ih => exact ih
  | and l r ihl ihr | or l r ihl ihr =>
      rw [firstExtended?_binary rfl rfl, Option.or_eq_none_iff, ihl, ihr]
      rfl
  | lit | kept | emptyCall | call | unknown =>
      constructor
      · intro h
        cases h
      · intro h
        exact h.elim

/-- **The machine stops at the first node that is not of the strict family.**  What comes before it in
    pre-order is evaluated, whatever its values are. -/
theorem runTasks_visit_extended (σ : String → Bool) {f : Formula} {kind : String}
    (h : f.firstExtended? = some kind) (rest : List Task) (values : List Bool) :
    runTasks σ (.visit f :: rest) values = .error (.notStrict kind) := by
  induction f generalizing kind rest values with
  | const | var => cases h
  | lit | emptyCall | unknown | call | kept =>
      cases h
      rw [runTasks]
  | not f ih =>
      rw [runTasks]
      exact ih h _ values
  | and l r ihl ihr | or l r ihl ihr =>
      rw [firstExtended?_binary rfl rfl] at h
      rw [runTasks]
      cases hl : l.firstExtended? with
      | some k =>
          rw [hl] at h
          cases h
          exact ihl hl _ values
      | none =>
          -- The left operand leaves its value, and the fault is in the right one.
          rw [hl, Option.none_or] at h
          rw [runTasks_visit σ ((firstExtended?_eq_none_iff l).mp hl)]
          exact ihr h _ _

theorem isStrict_eq_false_iff (f : Formula) :
    f.isStrict = false ↔ ∃ kind, f.firstExtended? = some kind := by
  rw [← Bool.not_eq_true, isStrict_iff, ← firstExtended?_eq_none_iff, ← Option.isSome_iff_exists,
    Option.isSome_iff_ne_none]

/-- **The checks of strictness agree**, for every formula and under every assignment.  A formula passes the
    check exactly if all of its nodes are of the strict family, and exactly then the machine does not refuse it.
    It refuses a formula on account of the first node in pre-order that is not of the strict family; otherwise it
    comes to the truth value of the formula, which is all that is left on its stack.  It never takes a value
    that is not there. -/
theorem evaluate_strictness (f : Formula) (σ : String → Bool) :
    (f.isStrict = true ↔ ∀ p ∈ f.preorder, p.extendedKind? = none)
      ∧ ((∃ kind, f.evaluate σ = .error (.notStrict kind)) ↔ f.isStrict = false)
      ∧ (f.isStrict = false → ∃ before p after kind, f.preorder = before ++ p :: after
          ∧ (∀ q ∈ before, q.extendedKind? = none) ∧ p.extendedKind? = some kind
          ∧ f.evaluate σ = .error (.notStrict kind))
      ∧ (f.isStrict = true →
          runTasks σ [.visit f] [] = .ok [f.holds σ] ∧ f.evaluate σ = .ok (f.holds σ))
      ∧ runTasks σ [.visit f] [] ≠ .error .noValue := by
  have hnodes : f.isStrict = true ↔ ∀ p ∈ f.preorder, p.extendedKind? = none := by
    rw [isStrict_iff, ← firstExtended?_eq_none_iff, firstExtended?, List.findSome?_eq_none_iff]
  cases hfirst : f.firstExtended? with
  | none =>
      have hprop := (firstExtended?_eq_none_iff f).mp hfirst
      have hstrict := (isStrict_iff f).mpr hprop
      have hrun : runTasks σ [.visit f] [] = .ok [f.holds σ] := by
        rw [runTasks_visit σ hprop, runTasks]
      have heval := evaluate_propositional σ hprop
      refine ⟨hnodes, ?_, ?_, fun _ => ⟨hrun, heval⟩, ?_⟩
      · simp [heval, hstrict]
      · simp [hstrict]
      · simp [hrun]
  | some kind =>
      have hstrict := (isStrict_eq_false_iff f).mpr ⟨kind, hfirst⟩
      have hrun : runTasks σ [.visit f] [] = .error (.notStrict kind) :=
        runTasks_visit_extended σ hfirst [] []
      have heval : f.evaluate σ = .error (.notStrict kind) := by
        rw [evaluate, hrun]
      refine ⟨hnodes, ⟨fun _ => hstrict, fun _ => ⟨kind, heval⟩⟩, fun _ => ?_, ?_, ?_⟩
      · obtain ⟨before, p, after, hsplit, hp, hbefore⟩ := List.findSome?_eq_some_iff.mp hfirst
        exact ⟨before, p, after, kind, hsplit, hbefore, hp, heval⟩
      · simp [hstrict]
      · simp [hrun]

/-- The formula `0 && !f() || 2`, with a call that no truth value depends on in front of a literal. -/
def idleCall : Formula := .or (.and (.const false) (.not (.emptyCall "f"))) (.lit "2")

/-- The formula `1 || !A`. -/
def trueOrNot : Formula := .or (.const true) (.not (.var "A"))

/-- The call is reported although its value would not count, and the literal behind it is not. -/
theorem evaluate_strictness_idleCall :
    idleCall.isStrict = false
      ∧ (∃ kind, idleCall.evaluate (fun _ => true) = .error (.notStrict kind))
      ∧ idleCall.evaluate (fun _ => true) = .error (.notStrict "Macro")
      ∧ (EvalFault.notStrict "Macro").message = "Macro is not a Boolean formula and cannot be evaluated"
      ∧ trueOrNot.isStrict = true
      ∧ runTasks (fun _ => true) [.visit trueOrNot] [] = .ok [true] := by
  have hidle : idleCall.isStrict = false := by cbv
  have hstrict : trueOrNot.isStrict = true := by cbv
  obtain ⟨-, hraises, hfirst, -, -⟩ := evaluate_strictness idleCall fun _ => true
  obtain ⟨-, -, -, hvalue, -⟩ := evaluate_strictness trueOrNot fun _ => true
  refine ⟨hidle, hraises.mpr hidle, ?_, by decide, hstrict, (hvalue hstrict).1⟩
  obtain ⟨before, p, after, kind, hsplit, hbefore, hkind, heval⟩ := hfirst hidle
  rw [heval]
  have hfound : idleCall.preorder.findSome? extendedKind? = some kind :=
    List.findSome?_eq_some_iff.mpr ⟨before, p, after, hsplit, hkind, hbefore⟩
  cases hfound
  rfl

end HashIf.Formula
