import HashIf.Condition.Frames
import HashIf.Expr.Parse
import HashIf.Log
import HashIf.Text.Quoted

/-!
# `HashIf.Condition.Interpret`: from text to formula

A condition is parsed and its tree is turned into a formula.  In the strict reading the options say what
becomes of an invalid condition; a replacement is put on record.  A condition with an integer that
is too long is no invalid condition in this sense: it fails under every policy.

## Contents
- `Reading`: a formula or a failure, and the warning that goes with a replacement.
- `withinStack`: a formula that the call stack has room for.
- `strictFormula`, `extendedFormula`: the two readings without policy.
- `applyPolicy`, `underPolicy`: what becomes of an invalid condition.
- `interpretStrict`, `interpretExtended`: the two readings of a text.
-/

namespace HashIf.Condition

/-- What the reading of a condition gives. -/
structure Reading where
  result : Except Failure Formula
  warning : Option LogRecord

/-- The variable that stands for an invalid condition. -/
def errorVariableName : String := "PARSING_ERROR"

/-- A formula whose fault is shown in the condition `context`, if there is one. -/
def shownIn (context : Option String) (r : Except LocatedFault Formula) :
    Except Failure Formula :=
  r.mapError fun f => .rejected (.ofLocated context f)

/-- What is shown is always a rejection. -/
theorem shownIn_eq_error_iff {context : Option String} {r : Except LocatedFault Formula} {f : Failure} :
    shownIn context r = .error f ↔ ∃ fault, r = .error fault ∧ f = .rejected (.ofLocated context fault) := by
  cases r with
  | error fault =>
      constructor
      · intro h
        cases h
        exact ⟨fault, rfl, rfl⟩
      · rintro ⟨fault, hfault, rfl⟩
        cases hfault
        rfl
  | ok g =>
      constructor
      · intro h
        cases h
      · rintro ⟨fault, hfault, -⟩
        cases hfault

/-- The formula of a tree of `text`, whose making needs `n` frames: a condition that needs more than there
    are is refused. -/
def withinStack [CallStack] (n : Nat) (text : String) (r : Except Failure Formula) :
    Except Failure Formula :=
  CallStack.within n (.rejected (.ofLocated (some text) ⟨.conditionTooDeep, none⟩)) r

/-- The strict formula of a text. -/
def strictFormula [CallStack] (o : Options) (text : String) : Except Failure Formula :=
  match Expr.parse text with
  | .error f => .error f
  | .ok e => withinStack (strictFrames o e) text (shownIn (some text) (strict o e))

/-- The extended formula of a text. -/
def extendedFormula [CallStack] (linux : Bool) (text : String) : Except Failure Formula :=
  match Expr.parse text with
  | .error f => .error f
  | .ok e => withinStack (extendedFrames linux e) text (shownIn (some text) (extended linux e))

/-- The record of a replacement. -/
def replacementWarning (text replacement : String) (r : Rejection) : LogRecord :=
  ⟨.warning, "cppcondition.conditions.boolean",
    "Replacing invalid condition " ++ Text.quoted text ++ " with " ++ replacement ++ ": "
      ++ r.fault.message⟩

/-- What a policy makes of an invalid condition. -/
def applyPolicy (policy : InvalidPolicy) (text : String) (r : Rejection) : Reading :=
  match policy with
  | .refuse => ⟨.error (.rejected r), none⟩
  | .assumeTrue => ⟨.ok (.const true), some (replacementWarning text "true" r)⟩
  | .errorVariable =>
    ⟨.ok (.var errorVariableName), some (replacementWarning text errorVariableName r)⟩

/-- What a policy makes of any result; only invalid conditions are its business. -/
def underPolicy (policy : InvalidPolicy) (text : String) : Except Failure Formula → Reading
  | .error (.rejected r) => applyPolicy policy text r
  | result => ⟨result, none⟩

/-- The strict reading of a text under the options' policy. -/
def interpretStrict [CallStack] (o : Options) (text : String) : Reading :=
  underPolicy o.invalid text (strictFormula o text)

/-- The extended reading of a text; invalid conditions are always refused. -/
def interpretExtended [CallStack] (linux : Bool) (text : String) : Reading :=
  ⟨extendedFormula linux text, none⟩

/-- The records that parsing a text leaves behind. -/
def parseRecords [CallStack] (text : String) : List LogRecord :=
  match Token.lex text with
  | .error _ => []
  | .ok tokens =>
    let count := toString tokens.length ++ " token(s)"
    ⟨.debug, "cppcondition.parser.lexer", "Lexed " ++ count ++ " from " ++ Text.quoted text⟩ ::
      match Expr.parse text with
      | .error _ => []
      | .ok _ =>
        [⟨.debug, "cppcondition.parser.facade",
          "Parsed " ++ Text.quoted text ++ " from " ++ count⟩]

end HashIf.Condition
