import HashIf.Proofs.Outcomes
import HashIf.Proofs.StrictTree

/-!
# `HashIf.Proofs.Policies`: what becomes of an invalid condition

The strict reading of a text does not depend on the policy for invalid conditions; the policy is applied to
what comes out.  It replaces a rejection and leaves a warning, and it touches nothing else.  So the two
policies that replace can fail only where the reading ends without a rejection, and of all that can go wrong
on the way from the text to the formula, this is only a long integer.

## Contents
- `strict_stage`: a bound tree without formula is refused by the semantic stage.
- `strictFormula_eq_rejected`, `strictFormula_eq_tooLong_iff`: how the strict reading of a text can fail.
- `shownUnder`, `shownUnder_eq`: the result and the warnings of a reading under a policy.
- `shownUnder_of_formula`, `shownUnder_of_rejected`, `shownUnder_of_longInteger`: each result under a policy.
- `shownUnder_policies`: the three policies compared.
-/

namespace HashIf.Condition

open Token

/-! ## Trees without a formula -/

section

variable {op : Operator} {pos : Option Int} {f : LocatedFault}

theorem testedVariable_stage {name : String} {argument : Option Expr}
    (h : testedVariable name argument pos = .error f) : f.fault.stage = .semantic := by
  unfold testedVariable at h
  split at h
  · cases h
    rfl
  · cases h
  · cases h
    rfl

theorem strictCall_stage {o : Options} {name : String} {argument : Option Expr}
    (h : strictCall o name argument pos = .error f) : f.fault.stage = .semantic := by
  unfold strictCall testFormula at h
  split at h
  · rename_i g hg
    cases h
    split at hg
    · cases hg
    · exact testedVariable_stage (map_eq_error hg)
  · cases h
    rfl
  · cases h

theorem encodeComparison_stage {fuzzy : Bool} {l r : Option Expr}
    (h : encodeComparison fuzzy op l r pos = .error f) : f.fault.stage = .semantic := by
  unfold encodeComparison at h
  split at h
  · cases h
    rfl
  · split at h
    · cases h
    · cases h
      rfl

/-- A sign in front of anything but a number has no Boolean meaning. -/
theorem strict_sign_stage {a : Expr}
    (h : (match negatedNumber? op a with
      | some v => .ok (truth v)
      | none => .error ⟨.unsupportedOperator op, pos⟩) = Except.error f) : f.fault.stage = .semantic := by
  split at h
  · cases h
  · cases h
    rfl

end

/-- **A tree whose operators are all bound is refused by the semantic stage**, if it has no formula.  The
    other faults of the strict reading are about operators that lack an operand. -/
theorem strict_stage {o : Options} {e : Expr} {f : LocatedFault} (hbound : e.Bound)
    (h : strict o e = .error f) : f.fault.stage = .semantic := by
  induction e with
  | var x p =>
      rw [strict] at h
      split at h
      · cases h
      · cases h
        rfl
  | num v p =>
      rw [strict] at h
      cases h
  | emptyCall name p =>
      rw [strict] at h
      exact strictCall_stage h
  | unary op a p ih =>
      have hconn : ¬ op.isConnective = true := by
        have hunary := hbound.1
        cases op <;> simp_all [Operator.isConnective, Operator.isUnary]
      rw [strict, if_neg hconn] at h
      split at h
      · exact ih hbound.2 (map_eq_error h)
      · split at h
        · exact encodeComparison_stage h
        · exact strict_sign_stage h
  | binary op l r p ihl ihr =>
      by_cases hconn : op.isConnective = true
      · rw [strict_connective o hconn] at h
        cases hl : strict o l with
        | error g =>
            rw [hl] at h
            cases h
            exact ihl hbound.2.1 hl
        | ok left =>
            cases hr : strict o r with
            | error g =>
                rw [hl, hr] at h
                cases h
                exact ihr hbound.2.2 hr
            | ok right =>
                rw [hl, hr] at h
                cases h
      · rw [strict, if_neg hconn] at h
        split at h
        · exact ihl hbound.2.1 (map_eq_error h)
        · split at h
          · exact encodeComparison_stage h
          · exact strict_sign_stage h
  | call name a p ih =>
      rw [strict] at h
      exact strictCall_stage h
  | mark | group => exact hbound.elim

/-! ## Texts without a formula -/

/-- The policy for invalid conditions has no part in the formula of a tree. -/
theorem strict_policy (o : Options) (policy : InvalidPolicy) (e : Expr) :
    strict { o with invalid := policy } e = strict o e := by
  induction e with
  | unary op a p ih => rw [strict, strict, ih]
  | binary op l r p ihl ihr =>
      by_cases hconn : op.isConnective = true
      · rw [strict_connective _ hconn, strict_connective _ hconn, ihl, ihr]
      · rw [strict, strict, if_neg hconn, if_neg hconn, ihl]
  | emptyCall name p =>
      rw [strict, strict]
      rfl
  | call name a p ih =>
      rw [strict, strict]
      rfl
  | _ => rw [strict, strict]

/-- Nor has it one in the frames that the formula needs. -/
theorem strictFrames_policy (o : Options) (policy : InvalidPolicy) (e : Expr) :
    strictFrames { o with invalid := policy } e = strictFrames o e := by
  induction e with
  | unary op a p ih => rw [strictFrames, strictFrames, ih]
  | binary op l r p ihl ihr => rw [strictFrames, strictFrames, ihl, ihr, strict_policy]
  | _ => rfl

theorem strictFormula_policy [CallStack] (o : Options) (policy : InvalidPolicy) (text : String) :
    strictFormula { o with invalid := policy } text = strictFormula o text := by
  unfold strictFormula
  cases Expr.parse text with
  | error f => rfl
  | ok e => simp only [strict_policy, strictFrames_policy]

/-- **A rejection belongs to one of the stages**, to the last one exactly if the text has a tree, and it is
    shown in the text. -/
theorem strictFormula_eq_rejected [CallStack] {o : Options} {text : String} {r : Rejection}
    (h : strictFormula o text = .error (.rejected r)) :
    r.fault.stage ≠ .general ∧ (r.fault.stage = .semantic ↔ ∃ e, Expr.parse text = .ok e)
      ∧ r.condition = some text := by
  have houtcome := Expr.outcome_of_parse text
  rcases strictFormula_eq_error_iff.mp h with hparse | ⟨e, fault, hparse, hr, hfault⟩
  · rw [hparse] at houtcome ⊢
    cases houtcome with
    | lexical _ hstage hshown => simp [hstage, hshown]
    | structural _ _ _ hstage => simp [hstage]
    | resolution _ _ _ hstage hshown => simp [hstage, hshown]
  · rw [hparse] at houtcome ⊢
    cases hr
    cases houtcome with
    | tree _ _ _ hbound =>
        have hstage : fault.fault.stage = .semantic := by
          rcases hfault with ⟨-, rfl⟩ | ⟨-, hstrict⟩
          · rfl
          · exact strict_stage hbound hstrict
        simp [Rejection.ofLocated, hstage]

/-- **Without a rejection the strict reading fails only at a long integer**, which the text meets. -/
theorem strictFormula_eq_tooLong_iff [CallStack] {o : Options} {text : String} {n : Nat} :
    strictFormula o text = .error (.numeralTooLong n) ↔ MeetsLongInteger n text := by
  rw [strictFormula_eq_error_iff]
  constructor
  · rintro (hparse | ⟨e, fault, -, hfailure, -⟩)
    · have houtcome := Expr.outcome_of_parse text
      rw [hparse] at houtcome
      cases houtcome with
      | numeralTooLong _ hlong => exact hlong
    · cases hfailure
  · intro h
    exact .inl (Expr.parse_of_lex_error (lex_eq_tooLong_iff.mpr h))

/-! ## Policies -/

/-- What the strict reading of a text under a policy shows: its result and the messages of its warnings. -/
def shownUnder [CallStack] (o : Options) (policy : InvalidPolicy) (text : String) :
    Except Failure Formula × List String :=
  let reading := interpretStrict { o with invalid := policy } text
  (reading.result, warningsOf (parseRecords text ++ reading.warning.toList))

/-- Parsing a text leaves no warnings. -/
theorem warningsOf_parseRecords [CallStack] (text : String) (records : List LogRecord) :
    warningsOf (parseRecords text ++ records) = warningsOf records := by
  unfold parseRecords
  cases Token.lex text with
  | error f => rfl
  | ok tokens => cases Expr.parse text <;> rfl

/-- **A policy is applied to what the strict reading comes to.** -/
theorem shownUnder_eq [CallStack] (o : Options) (policy : InvalidPolicy) (text : String) :
    shownUnder o policy text = ((underPolicy policy text (strictFormula o text)).result,
      warningsOf (underPolicy policy text (strictFormula o text)).warning.toList) := by
  unfold shownUnder interpretStrict
  rw [strictFormula_policy]
  simp only [warningsOf_parseRecords]

theorem shownUnder_refuse [CallStack] (o : Options) (text : String) :
    (shownUnder o .refuse text).1 = strictFormula o text := by
  rw [shownUnder_eq]
  cases strictFormula o text with
  | ok f => rfl
  | error g => cases g <;> rfl

section

variable [CallStack] {o : Options} {text : String}

/-- A formula is left alone. -/
theorem shownUnder_of_formula {f : Formula} (h : strictFormula o text = .ok f) (policy : InvalidPolicy) :
    shownUnder o policy text = (.ok f, []) := by
  rw [shownUnder_eq, h]
  rfl

/-- So is a long integer. -/
theorem shownUnder_of_longInteger {n : Nat} (h : MeetsLongInteger n text) (policy : InvalidPolicy) :
    shownUnder o policy text = (.error (.numeralTooLong n), []) := by
  rw [shownUnder_eq, strictFormula_eq_tooLong_iff.mpr h]
  rfl

/-- A rejected text is replaced, with one warning that gives the reason. -/
theorem shownUnder_of_rejected {r : Rejection} (h : strictFormula o text = .error (.rejected r)) :
    shownUnder o .assumeTrue text = (.ok (.const true),
        ["Replacing invalid condition " ++ Text.quoted text ++ " with " ++ "true" ++ ": "
          ++ r.fault.message])
      ∧ shownUnder o .errorVariable text = (.ok (.var "PARSING_ERROR"),
        ["Replacing invalid condition " ++ Text.quoted text ++ " with " ++ "PARSING_ERROR" ++ ": "
          ++ r.fault.message]) := by
  constructor
  · rw [shownUnder_eq, h]
    rfl
  · rw [shownUnder_eq, h]
    rfl

/-- **A policy that replaces fails exactly for the texts that meet a long integer.** -/
theorem shownUnder_eq_error_iff {policy : InvalidPolicy} (hpolicy : policy ≠ .refuse) :
    (∃ failure, (shownUnder o policy text).1 = .error failure) ↔ ∃ n, MeetsLongInteger n text := by
  constructor
  · rintro ⟨failure, hfailure⟩
    cases hstrict : strictFormula o text with
    | ok f =>
        rw [shownUnder_of_formula hstrict] at hfailure
        cases hfailure
    | error g =>
        cases g with
        | rejected r =>
            -- Both policies that replace give a formula here.
            obtain ⟨htrue, hvariable⟩ := shownUnder_of_rejected hstrict
            cases policy with
            | refuse => exact absurd rfl hpolicy
            | assumeTrue =>
                rw [htrue] at hfailure
                cases hfailure
            | errorVariable =>
                rw [hvariable] at hfailure
                cases hfailure
        | numeralTooLong n => exact ⟨n, strictFormula_eq_tooLong_iff.mp hstrict⟩
  · rintro ⟨n, hn⟩
    rw [shownUnder_of_longInteger hn]
    exact ⟨_, rfl⟩

end

/-- **The three policies compared**, for every text and all options.  A text with a formula has the same
    formula under all of them, without a warning.  A rejected text, whichever stage rejects it, is replaced by
    truth or by the error variable with one warning that gives the reason.  The policies that replace fail
    exactly for the texts that meet a long integer, for which all policies fail. -/
theorem shownUnder_policies [CallStack] (o : Options) (text : String) :
    (∀ f, (shownUnder o .refuse text).1 = .ok f → ∀ policy, shownUnder o policy text = (.ok f, []))
      ∧ (∀ r, (shownUnder o .refuse text).1 = .error (.rejected r) →
          (r.fault.stage ≠ .general ∧ (r.fault.stage = .semantic ↔ ∃ e, Expr.parse text = .ok e)
            ∧ r.condition = some text)
          ∧ shownUnder o .assumeTrue text = (.ok (.const true),
              ["Replacing invalid condition " ++ Text.quoted text ++ " with " ++ "true" ++ ": "
                ++ r.fault.message])
          ∧ shownUnder o .errorVariable text = (.ok (.var "PARSING_ERROR"),
              ["Replacing invalid condition " ++ Text.quoted text ++ " with " ++ "PARSING_ERROR" ++ ": "
                ++ r.fault.message]))
      ∧ (∀ policy, policy ≠ .refuse →
          ((∃ failure, (shownUnder o policy text).1 = .error failure) ↔ ∃ n, MeetsLongInteger n text))
      ∧ ∀ n, MeetsLongInteger n text →
          ∀ policy, shownUnder o policy text = (.error (.numeralTooLong n), []) := by
  rw [shownUnder_refuse]
  refine ⟨?_, ?_, ?_, ?_⟩
  · intro f hf
    exact shownUnder_of_formula hf
  · intro r hr
    exact ⟨strictFormula_eq_rejected hr, shownUnder_of_rejected hr⟩
  · intro policy hpolicy
    exact shownUnder_eq_error_iff hpolicy
  · intro n hn
    exact shownUnder_of_longInteger hn

/-- A condition with an integer of `n` sevens and a suffix behind a test. -/
def sevensText (n : Nat) : String :=
  String.ofList ("defined(A) && ".toList ++ (List.replicate n '7' ++ ['U'] ++ ['L', 'l']) ++ [])

theorem meetsLongInteger_sevensText {n : Nat} (h : Number.digitLimit < n) :
    MeetsLongInteger n (sevensText n) := by
  have hdigits : ∀ c ∈ List.replicate n '7', c.isDigit = true := by
    intro c hc
    rw [List.eq_of_mem_replicate hc]
    rfl
  have hword : IntegerWord (List.replicate n '7') (List.replicate n '7' ++ ['U'] ++ ['L', 'l']) :=
    ⟨hdigits, ['U'], ['L', 'l'], rfl, .inr (.inr rfl), by simp⟩
  have hbefore : Token.lex (String.ofList "defined(A) && ".toList)
      = .ok [.name 0 "defined", .bracket 7 true, .name 8 "A", .bracket 9 false, .operator 11 .boolAnd] := by
    cbv
  have hlast : ∀ c ∈ "defined(A) && ".toList.getLast?, isWordChar c = false := by
    have hblank : "defined(A) && ".toList.getLast? = some ' ' := by cbv
    intro c hc
    rw [hblank] at hc
    cases hc
    rfl
  exact ⟨_, _, _, _, String.toList_ofList, hword, List.length_replicate.symm, h, hlast, ends_nil, _, hbefore⟩

theorem shownUnder_policies_sevens :
    shownUnder .default .assumeTrue "defined(A)" = (.ok (.var "A"), [])
      ∧ shownUnder .default .errorVariable "defined(A) ||" = (.ok (.var "PARSING_ERROR"),
          ["Replacing invalid condition " ++ Text.quoted "defined(A) ||" ++ " with " ++ "PARSING_ERROR"
            ++ ": " ++ "Didn't find elements on both sides of binary operator"])
      ∧ (∃ failure, (shownUnder .default .assumeTrue (sevensText 4301)).1 = .error failure)
      ∧ ∀ policy, shownUnder .default policy (sevensText 4301) = (.error (.numeralTooLong 4301), []) := by
  have hlong := @meetsLongInteger_sevensText 4301 (by decide)
  have haccepted : (shownUnder .default .refuse "defined(A)").1 = .ok (.var "A") := by
    rw [shownUnder_refuse]
    cbv
  have hrejected : (shownUnder .default .refuse "defined(A) ||").1
      = .error (.rejected ⟨.missingSide, some "defined(A) ||", [11]⟩) := by
    rw [shownUnder_refuse]
    cbv
  refine ⟨?_, ?_, ?_, ?_⟩
  · exact (shownUnder_policies .default "defined(A)").1 _ haccepted .assumeTrue
  · exact ((shownUnder_policies .default "defined(A) ||").2.1 _ hrejected).2.2
  · exact ((shownUnder_policies .default (sevensText 4301)).2.2.1 .assumeTrue (by decide)).mpr ⟨_, hlong⟩
  · exact (shownUnder_policies .default (sevensText 4301)).2.2.2 _ hlong

end HashIf.Condition
