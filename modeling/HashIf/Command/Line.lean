import HashIf.Command.Arguments
import HashIf.Command.Help
import HashIf.Condition.Options

/-!
# `HashIf.Command.Line`: what a command line asks for

## Contents
- `OptionId`, `programOptions`, `optionsOf`: the options of the program and of its commands.
- `OutputFormat`: how a formula is printed.
- `Request`: what is asked for.
- `Invocation`, `readLine`: a command line as a request, as a request for help, or as an error.
-/

namespace HashIf.Command

open HashIf.Condition (InvalidPolicy)

/-- The options of the program and of its commands. -/
inductive OptionId where
  | help | verbose | nonBoolean | fuzzy | linuxMacros | invalid | config | format | showTree
  deriving DecidableEq, Repr

/-- The option that asks for help. -/
def isHelp (o : OptionId) : Bool := o = .help

/-- An option without value. -/
def flagSpec (id : OptionId) (names : List String) : OptionSpec OptionId := ⟨id, names, false, []⟩

/-- The option that every command line has. -/
def helpSpec : OptionSpec OptionId := flagSpec .help ["-h", "--help"]

/-- The options in front of the command. -/
def programOptions : List (OptionSpec OptionId) := [helpSpec, flagSpec .verbose ["-v", "--verbose"]]

/-- The options of both interpreting commands. -/
def interpreterOptions : List (OptionSpec OptionId) :=
  [helpSpec, flagSpec .nonBoolean ["--non-boolean"], flagSpec .fuzzy ["--fuzzy"],
   flagSpec .linuxMacros ["--linux-macros"],
   ⟨.invalid, ["--invalid"], true, ["exception", "true", "error_variable"]⟩,
   ⟨.config, ["--config"], true, []⟩]

/-- How a formula is printed. -/
inductive OutputFormat where
  | text | json | graphml | dot
  deriving DecidableEq, Repr

namespace OutputFormat

/-- All formats. -/
def all : List OutputFormat := [text, json, graphml, dot]

/-- The name of a format. -/
def name : OutputFormat → String
  | text => "text"
  | json => "json"
  | graphml => "graphml"
  | dot => "dot"

/-- The format with the given name. -/
def ofName? (s : String) : Option OutputFormat := all.find? (·.name == s)

end OutputFormat

/-- The options of a command. -/
def commandOptions : Topic → List (OptionSpec OptionId)
  | .program => programOptions
  | .parse =>
    interpreterOptions ++
      [⟨.format, ["-f", "--format"], true, OutputFormat.all.map OutputFormat.name⟩,
       flagSpec .showTree ["--show-ast"]]
  | .names => interpreterOptions
  | .tokens => [helpSpec]

/-- The commands by their names. -/
def commands : List (String × Topic) :=
  [("parse", .parse), ("variables", .names), ("tokens", .tokens)]

/-- What a command line says about settings. -/
inductive ConfigArgument where
  | absent
  /-- The option is there without a value. -/
  | empty
  | text (source : String)
  deriving DecidableEq, Repr

/-- How a condition is to be interpreted. -/
structure Interpretation where
  condition : String
  nonBoolean : Bool
  fuzzy : Bool
  linuxMacros : Bool
  invalid : Option InvalidPolicy
  config : ConfigArgument

/-- What is asked for. -/
inductive Request where
  | parse (i : Interpretation) (format : OutputFormat) (showTree : Bool)
  | names (i : Interpretation)
  | tokens (condition : String)

/-- What a command line comes to. -/
inductive Invocation where
  | run (verbose : Bool) (r : Request)
  | help (t : Topic)
  /-- There is no command. -/
  | nothing
  | fault (t : Topic) (f : UsageFault)

/-- The last use of an option, with the value it has there. -/
def lastUse (options : List (OptionId × Option String)) (id : OptionId) : Option (Option String) :=
  options.reverse.lookup id

/-- Whether an option is given. -/
def given (options : List (OptionId × Option String)) (id : OptionId) : Bool :=
  (lastUse options id).isSome

/-- The value of an option in its last use. -/
def lastValue (options : List (OptionId × Option String)) (id : OptionId) : Option String :=
  (lastUse options id).join

/-- What options say about settings. -/
def configArgument (options : List (OptionId × Option String)) : ConfigArgument :=
  match lastUse options .config with
  | none => .absent
  | some none => .empty
  | some (some source) => .text source

/-- The interpretation that options ask for. -/
def interpretationOf (options : List (OptionId × Option String)) (condition : String) :
    Interpretation :=
  { condition
    nonBoolean := given options .nonBoolean
    fuzzy := given options .fuzzy
    linuxMacros := given options .linuxMacros
    invalid := (lastValue options .invalid).bind fun v => InvalidPolicy.ofName? v.toUpper
    config := configArgument options }

/-- The request of a command with its options and its operand. -/
def requestOf (t : Topic) (options : List (OptionId × Option String)) (condition : String) :
    Request :=
  let i := interpretationOf options condition
  match t with
  | .tokens => .tokens condition
  | .names => .names i
  | _ =>
    .parse i (((lastValue options .format).bind OutputFormat.ofName?).getD .text)
      (given options .showTree)

/-- The arguments of a command. -/
def readCommand (verbose : Bool) (extras : List String) (t : Topic) (args : List String) :
    Invocation :=
  match scan (commandOptions t) isHelp .single args with
  | .error .help => .help t
  | .error (.fault f) => .fault t f
  | .ok a =>
    match a.operand with
    | [] => .fault t (.missingOperand "expression")
    | condition :: _ =>
      let left := extras ++ a.extras
      if left.isEmpty then .run verbose (requestOf t a.options condition)
      else .fault .program (.unrecognized left)

/-- What a command line asks for. -/
def readLine (args : List String) : Invocation :=
  match scan programOptions isHelp .command args with
  | .error .help => .help .program
  | .error (.fault f) => .fault .program f
  | .ok a =>
    match a.operand with
    | [] => if a.extras.isEmpty then .nothing else .fault .program (.unrecognized a.extras)
    | name :: rest =>
      match commands.lookup name with
      | none => .fault .program (.invalidChoice "command" name (commands.map (·.1)))
      | some t => readCommand (given a.options .verbose) a.extras t rest

end HashIf.Command
