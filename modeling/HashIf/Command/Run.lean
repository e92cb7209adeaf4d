import HashIf.Command.Line
import HashIf.Condition.Session
import HashIf.Console.Table
import HashIf.Console.Tree
import HashIf.Export.Dot
import HashIf.Export.GraphML
import HashIf.Export.NodeLink
import HashIf.Formula.Text
import HashIf.Formula.Variables
import HashIf.Settings.Source

/-!
# `HashIf.Command.Run`: what the commands print

A run ends with an exit code, with what it printed on either stream and with what it put on
record.  The code is `0` on success, `1` for an invalid condition, and `2` for a wrong command line,
wrong settings and a format that is not available.  An integer that is too long to be converted and
an option for settings that names none end the run without any of these.

## Contents
- `World`: what a run can look at.
- `Outcome`: what a run gives.
- `Abort`: what ends a run without an outcome.
- `sourceOf`, `overridden`: the options of an interpretation.
- `exported`: a formula in an output format.
- `runParse`, `runNames`, `runTokens`, `run`.
-/

namespace HashIf.Command

open HashIf.Condition (Options Mode Reading)

/-- What a run can look at. -/
structure World where
  /-- The contents of the files that exist. -/
  files : String → Option String
  /-- Whether the DOT format is available. -/
  dotAvailable : Bool

/-- What a run gives. -/
structure Outcome where
  exitCode : Nat
  stdout : String
  stderr : String
  records : List LogRecord

/-- The outcome with more printed and recorded before it. -/
def Outcome.after (stdout : String) (records : List LogRecord) (o : Outcome) : Outcome :=
  { o with stdout := stdout ++ o.stdout, records := records ++ o.records }

/-- Success with a text on the standard output. -/
def printed (text : String) (records : List LogRecord) : Outcome := ⟨0, text, "", records⟩

/-- The outcome for an invalid condition. -/
def rejectedOutcome (r : Rejection) : Outcome := ⟨1, "", Console.report r.render, []⟩

/-- A record of this module. -/
def errorRecord (message : String) : LogRecord := ⟨.error, "cppcondition.cli.parse", message⟩

/-- What ends a run without an outcome. -/
inductive Abort where
  /-- The condition holds an integer of more digits than can be converted. -/
  | numeralTooLong (digits : Nat)
  /-- Settings are asked for, but not which. -/
  | configWithoutValue
  deriving DecidableEq, Repr

/-- The text shown for a run without an outcome. -/
def Abort.message : Abort → String
  | numeralTooLong n => (Failure.numeralTooLong n).render
  | configWithoutValue => "expected str, bytes or os.PathLike object, not list"

/-- The end of a run whose condition can not be read: a report on an invalid condition, no outcome
    for an integer that is too long. -/
def failed : Failure → Except Abort Outcome
  | .rejected r => .ok (rejectedOutcome r)
  | .numeralTooLong n => .error (.numeralTooLong n)

/-- Continues with the result of reading a condition. -/
def withResult (r : Except Failure α) (k : α → Outcome) : Except Abort Outcome :=
  match r with
  | .ok a => .ok (k a)
  | .error f => failed f

/-! ## Settings -/

/-- The settings that an interpretation names. -/
def sourceOf (i : Interpretation) : Except Abort Settings.Source :=
  match i.config with
  | .absent => .ok .none
  | .empty => .error .configWithoutValue
  | .text c => .ok (.text c)

/-- The options of an interpretation: those of its settings, with the command line on top. -/
def overridden (i : Interpretation) (o : Options) : Options :=
  ⟨o.linux || i.linuxMacros, o.fuzzy || i.fuzzy, i.invalid.getD o.invalid⟩

/-- The reading that an interpretation asks for. -/
def modeOf (i : Interpretation) : Mode := if i.nonBoolean then .extended else .strict

/-- A truth value in a record. -/
def flagText (b : Bool) : String := if b then "True" else "False"

/-- The record of the interpreter in use. -/
def interpreterRecord (mode : Mode) (o : Options) : LogRecord :=
  let name := match mode with
    | .strict => "CppConditionParser"
    | _ => "CppNonBooleanConditionParser"
  ⟨.debug, "cppcondition.cli.parse",
    "Using " ++ name ++ " with handle_linux_macros=" ++ flagText o.linux ++ " fuzzy_parsing="
      ++ flagText o.fuzzy ++ " invalid_condition=<InvalidConditionHandling." ++ o.invalid.name
      ++ ": '" ++ o.invalid.name ++ "'>"⟩

/-- Continues with the options of an interpretation. -/
def withSettings (w : World) (i : Interpretation) (k : Options → Except Abort Outcome) :
    Except Abort Outcome :=
  match sourceOf i with
  | .error e => .error e
  | .ok source =>
    let (result, records) := Settings.load w.files source
    match result with
    | .error _ => .ok ⟨2, "", "", records ++ [errorRecord "Invalid settings"]⟩
    | .ok o => (k (overridden i o)).map (·.after "" records)

/-! ## Formulas -/

/-- The records of building a graph and of writing it. -/
def exportRecords (source : String) (g : Graph) (message : String) : List LogRecord :=
  [⟨.debug, "cppcondition.export.graph",
    "Built formula graph: " ++ toString g.nodes.length ++ " nodes, " ++ toString g.edges.length
      ++ " edges"⟩,
   ⟨.debug, "cppcondition.export." ++ source, message⟩]

/-- The number of nodes in a record. -/
def nodeCount (g : Graph) : String := toString g.nodes.length ++ " nodes"

/-- A formula in an output format, with the records of the export. -/
def exported (w : World) (format : OutputFormat) (f : Formula) : Except UnknownNode Outcome :=
  match format with
  | .text => (fun t => printed (t ++ "\n") []) <$> f.toText
  | .json => (fun g => printed (Export.nodeLink g ++ "\n")
      (exportRecords "json" g ("JSON export completed: " ++ nodeCount g ++ ", "
        ++ toString g.edges.length ++ " edges"))) <$> f.toGraph
  | .graphml => (fun g => printed (Export.graphML g ++ "\n")
      (exportRecords "graphml" g ("GraphML export completed: " ++ nodeCount g))) <$> f.toGraph
  | .dot => (fun g =>
      if w.dotAvailable then
        printed (Export.dot g ++ "\n")
          (exportRecords "dot" g ("DOT export completed: " ++ nodeCount g))
      else
        ⟨2, "", "", (exportRecords "dot" g "").take 1
          ++ [Export.dotUnavailable, errorRecord "Export format dot is not available"]⟩) <$> f.toGraph

/-- The outcome for a formula with a node that can not be printed. -/
def orUnknown : Except UnknownNode Outcome → Outcome
  | .ok o => o
  | .error e => ⟨1, "", e.message ++ "\n", []⟩

/-- Continues with the formula of a condition. -/
def withFormula [CallStack] (mode : Mode) (o : Options) (text : String) (k : Formula → Outcome) :
    Except Abort Outcome :=
  let reading := Condition.interpret mode o text
  (withResult reading.result k).map
    (·.after "" (Condition.parseRecords text ++ reading.warning.toList))

/-! ## Commands -/

/-- Prints the formula of a condition, with its tree in front if that is asked for. -/
def runParse [CallStack] (w : World) (i : Interpretation) (format : OutputFormat) (showTree : Bool) :
    Except Abort Outcome :=
  withSettings w i fun o =>
    let mode := modeOf i
    let formula := withFormula mode o i.condition fun f => orUnknown (exported w format f)
    let body :=
      if !showTree then formula
      else
        let records := Condition.parseRecords i.condition
        -- The tree comes first, so a condition without tree ends the run under every policy.
        match Expr.parse i.condition with
        | .ok e => formula.map (·.after (Console.tree e) records)
        | .error f => (failed f).map (·.after "" records)
    body.map (·.after "" [interpreterRecord mode o])

/-- Prints the names of the variables of a condition, folded to the width of the terminal. -/
def runNames [CallStack] (w : World) (i : Interpretation) : Except Abort Outcome :=
  withSettings w i fun o =>
    withFormula (modeOf i) o i.condition fun f =>
      orUnknown ((fun names => printed (String.join (names.flatMap fun n =>
        (Console.wrap Console.terminalWidth n).map (· ++ "\n"))) []) <$> f.varNames)

/-- Prints the tokens of a condition as a table. -/
def runTokens [CallStack] (condition : String) : Except Abort Outcome :=
  (withResult (Token.lex condition) fun ts => printed (Console.tokenTable ts) []).map
    (·.after "" ((Condition.parseRecords condition).take 1))

/-- Runs a request. -/
def runRequest [CallStack] (w : World) : Request → Except Abort Outcome
  | .parse i format showTree => runParse w i format showTree
  | .names i => runNames w i
  | .tokens condition => runTokens condition

/-- The records that are kept: all of them if that is asked for, else those from warnings on. -/
def keepRecords (verbose : Bool) (records : List LogRecord) : List LogRecord :=
  if verbose then records else records.filter (·.level != .debug)

/-- Runs a command line. -/
def run [CallStack] (w : World) (args : List String) : Except Abort Outcome :=
  match readLine args with
  | .help t => .ok ⟨0, t.help, "", []⟩
  | .nothing => .ok ⟨2, Topic.program.help, "", []⟩
  | .fault t f => .ok ⟨2, "", t.usage ++ t.title ++ ": error: " ++ f.message ++ "\n", []⟩
  | .run verbose r =>
    (runRequest w r).map fun o => { o with records := keepRecords verbose o.records }

end HashIf.Command
