import HashIf.Condition.Interpret

/-!
# `HashIf.Condition.Session`: several steps with one interpreter

An interpreter holds its reading, its options and two texts.  One is the text that is being read:
faults of its tree are shown in it, and it is let go at the end of the step, whatever the step gives.
The other one is the text whose operators were bound last: faults of binding are shown in it.  It is
replaced only when the operators of another text are about to be bound, so it outlives the step, and
a text that has no tokens or no matching brackets leaves an earlier one in place.

## Contents
- `Mode`, `treeFormula`, `treeFrames`: what texts are read as.
- `interpret`: a reading on its own.
- `Session`, `Session.start`: an interpreter between two steps.
- `Session.parse`, `Session.read`: how a text is read, and which texts are held afterwards.
- `Step`, `StepResult`, `Session.step`, `Session.run`.
-/

namespace HashIf.Condition

/-- What texts are read as. -/
inductive Mode where
  | strict | extended
  /-- Expression trees, without a formula. -/
  | tree
  deriving DecidableEq, Repr

/-- The formula of a tree; its fault is shown in `context`. -/
def treeFormula (mode : Mode) (o : Options) (context : Option String) (e : Expr) :
    Except Failure Formula :=
  shownIn context (match mode with
    | .strict => strict o e
    | _ => extended o.linux e)

/-- The frames that the formula of a tree needs. -/
def treeFrames (mode : Mode) (o : Options) (e : Expr) : Nat :=
  match mode with
  | .strict => strictFrames o e
  | _ => extendedFrames o.linux e

/-- The reading of a text on its own. -/
def interpret [CallStack] (mode : Mode) (o : Options) (text : String) : Reading :=
  match mode with
  | .strict => interpretStrict o text
  | _ => interpretExtended o.linux text

/-- A request to an interpreter. -/
inductive Step where
  /-- Reads a text. -/
  | read (text : String)
  /-- Asks for the formula of a tree that belongs to no text. -/
  | formulaOf (e : Expr)
  /-- Replaces some of the options. -/
  | set (linux fuzzy : Option Bool) (invalid : Option InvalidPolicy)

/-- The answer to a request. -/
inductive StepResult where
  | formula (r : Reading)
  | tree (r : Except Failure Expr)
  | done

/-- An interpreter. -/
structure Session where
  mode : Mode
  options : Options
  /-- The text that is being read. -/
  active : Option String
  /-- The text whose operators were bound last. -/
  bound : String
  deriving DecidableEq, Repr

namespace Session

/-- An interpreter that has read nothing yet. -/
def start (mode : Mode) (o : Options) : Session := ⟨mode, o, none, ""⟩

/-- The formula of a tree; its fault is shown in the text that is being read. -/
def formulaOf (s : Session) (e : Expr) : Except Failure Formula :=
  treeFormula s.mode s.options s.active e

/-- The tree of `text`, whose brackets are matched already. -/
def bindOperators [CallStack] (s : Session) (text : String) (nested : Expr) : Except Failure Expr :=
  CallStack.within (Expr.bindingFrames nested)
    (.rejected (.ofLocated (some text) ⟨.nestedTooDeeply, none⟩))
    (match Expr.resolve (Expr.detectCalls nested) with
    | .error f => .error (.rejected (.ofLocated (some s.bound) f))
    | .ok e =>
      if e.hasGroup then .error (.rejected (.ofLocated (some text) ⟨.unresolvedGroup, none⟩))
      else .ok e)

/-- The tree of a text.  The text is taken over for faults of binding once its brackets match. -/
def parse [CallStack] (s : Session) (text : String) : Except Failure Expr × Session :=
  match Token.lex text with
  | .error f => (.error f, s)
  | .ok tokens =>
    match Expr.ofTokens tokens with
    | .error f => (.error (.rejected (.ofLocated (some text) f)), s)
    | .ok nested =>
      let busy := { s with bound := text }
      (busy.bindOperators text nested, busy)

/-- The tree is that of the text on its own, whatever texts are held: a fault of binding is shown in the
    text that was just taken over. -/
theorem parse_fst [CallStack] (s : Session) (text : String) : (s.parse text).1 = Expr.parse text := by
  unfold parse Expr.parse
  cases Token.lex text with
  | error f => rfl
  | ok tokens =>
      simp only [Expr.resolveTokens]
      cases Expr.ofTokens tokens with
      | error f => rfl
      | ok nested =>
          simp only [bindOperators, Expr.bindNested, CallStack.within]
          split
          · rfl
          · cases Expr.resolve (Expr.detectCalls nested) with
            | error f => rfl
            | ok e =>
                simp only
                split <;> rfl

/-- Nothing but the text for faults of binding may be replaced. -/
theorem parse_snd [CallStack] (s : Session) (text : String) :
    ∃ bound, (s.parse text).2 = { s with bound := bound } := by
  unfold parse
  cases Token.lex text with
  | error f => exact ⟨s.bound, rfl⟩
  | ok tokens =>
      simp only
      cases Expr.ofTokens tokens with
      | error f => exact ⟨s.bound, rfl⟩
      | ok nested => exact ⟨text, rfl⟩

/-- Reads a text and lets go of it. -/
def read [CallStack] (s : Session) (text : String) : Reading × Session :=
  let parsed := { s with active := some text }.parse text
  let result := match parsed.1 with
    | .error f => .error f
    | .ok e => withinStack (treeFrames s.mode s.options e) text (parsed.2.formulaOf e)
  let reading := match s.mode with
    | .strict => underPolicy s.options.invalid text result
    | _ => ⟨result, none⟩
  -- Whatever the reading came to, the text is no longer active.
  (reading, { parsed.2 with active := none })

/-- A session reads a text as it is read on its own, whatever texts it holds. -/
theorem read_fst [CallStack] (s : Session) (text : String) :
    (s.read text).1 = interpret s.mode s.options text := by
  obtain ⟨mode, o, active, bound⟩ := s
  obtain ⟨bound', hafter⟩ := parse_snd ⟨mode, o, some text, bound⟩ text
  simp only [read, parse_fst, hafter]
  cases h : Expr.parse text <;> cases mode <;>
    simp only [formulaOf, treeFormula, treeFrames, interpret, interpretStrict, interpretExtended,
      strictFormula, extendedFormula, h]

/-- No text is active once it has been read, whatever the reading came to. -/
theorem read_snd [CallStack] (s : Session) (text : String) :
    ∃ bound, (s.read text).2 = { s with active := none, bound := bound } := by
  obtain ⟨bound, hafter⟩ := parse_snd { s with active := some text } text
  exact ⟨bound, by simp only [read, hafter]⟩

/-- The options with some of them replaced. -/
def assign (o : Options) (linux fuzzy : Option Bool) (invalid : Option InvalidPolicy) : Options :=
  ⟨linux.getD o.linux, fuzzy.getD o.fuzzy, invalid.getD o.invalid⟩

/-- The answer to a request, and the interpreter after it. -/
def step [CallStack] (s : Session) : Step → StepResult × Session
  | .read text =>
    match s.mode with
    | .tree => let (r, after) := s.parse text; (.tree r, after)
    | _ => let (r, after) := s.read text; (.formula r, after)
  | .formulaOf e => (.formula ⟨s.formulaOf e, none⟩, s)
  | .set linux fuzzy invalid => (.done, { s with options := assign s.options linux fuzzy invalid })

/-- The answers to a row of requests. -/
def run [CallStack] (s : Session) : List Step → List StepResult
  | [] => []
  | request :: rest => (s.step request).1 :: (s.step request).2.run rest

end Session

end HashIf.Condition
