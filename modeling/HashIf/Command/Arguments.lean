import HashIf.Text.Alphanumeric
import HashIf.Text.Quoted

/-!
# `HashIf.Command.Arguments`: options and operands of a command line

An option has one or more names and takes a value or not.  A long name may be shortened as long as
it stays unique, a value may follow its option directly, and several short options may share a
dash.  `--` ends the options, and attached to an option it stands for no value.  An argument with a
dash that names no option is an operand if it looks like a negative number or has a space in it,
and is otherwise left over.

## Contents
- `OptionSpec`, `OperandSpec`: what is expected.
- `UsageFault`, `UsageFault.message`: what can be wrong.
- `OptionUse`, `classify`: whether an argument is an option, and which one.
- `attachedValue`, `readOption`: an option with its value.
- `scan`: all arguments, from left to right.
-/

namespace HashIf.Command

/-! ## What is expected -/

/-- An option. -/
structure OptionSpec (ι : Type) where
  id : ι
  names : List String
  /-- Whether the option takes a value. -/
  takesValue : Bool
  /-- The values that are allowed; any value if there are none. -/
  choices : List String

/-- The name of an option in messages. -/
def OptionSpec.title (o : OptionSpec ι) : String := "/".intercalate o.names

/-- What the arguments that are no options are for. -/
inductive OperandSpec where
  /-- One operand. -/
  | single
  /-- The name of a command, which takes all arguments behind it. -/
  | command
  deriving DecidableEq

/-- What is wrong with a command line. -/
inductive UsageFault where
  | ambiguous (argument : String) (candidates : List String)
  | ignoredValue (title value : String)
  | missingValue (title : String)
  | invalidChoice (title value : String) (choices : List String)
  | missingOperand (name : String)
  | unrecognized (arguments : List String)
  deriving DecidableEq, Repr

/-- The wording of a usage fault. -/
def UsageFault.message : UsageFault → String
  | ambiguous a cs => "ambiguous option: " ++ a ++ " could match " ++ ", ".intercalate cs
  | ignoredValue t v => "argument " ++ t ++ ": ignored explicit argument " ++ Text.quoted v
  | missingValue t => "argument " ++ t ++ ": expected one argument"
  | invalidChoice t v cs =>
    "argument " ++ t ++ ": invalid choice: " ++ Text.quoted v ++ " (choose from "
      ++ ", ".intercalate (cs.map Text.quoted) ++ ")"
  | missingOperand n => "the following arguments are required: " ++ n
  | unrecognized as => "unrecognized arguments: " ++ " ".intercalate as

/-! ## Telling options from operands -/

/-- An argument that is an option: which one, the name it was called by, and the value that is
    attached to it. -/
structure OptionUse (ι : Type) where
  spec : OptionSpec ι
  name : String
  value : Option String

/-- What an argument is. -/
inductive ArgKind (ι : Type) where
  | operand
  /-- The mark that ends the options. -/
  | separator
  | option (use : OptionUse ι)
  /-- An argument that looks like an option and is none. -/
  | foreign

/-- The names of all options in the order of their declaration. -/
def optionNames (specs : List (OptionSpec ι)) : List (String × OptionSpec ι) :=
  specs.flatMap fun o => o.names.map fun n => (n, o)

/-- The option with exactly this name. -/
def findOption (specs : List (OptionSpec ι)) (name : String) : Option (OptionSpec ι) :=
  (optionNames specs).lookup name

/-- Cuts an argument at its first equals sign. -/
def splitEquals (a : String) : Option (String × String) :=
  let cs := a.toList
  match cs.dropWhile (· != '=') with
  | _ :: value => some (String.ofList (cs.takeWhile (· != '=')), String.ofList value)
  | [] => none

/-- The options that an argument may be short for. -/
def candidates (specs : List (OptionSpec ι)) (a : String) : List (OptionUse ι) :=
  match a.toList with
  | '-' :: '-' :: _ =>
    let (stem, value) := match splitEquals a with
      | some (stem, v) => (stem, some v)
      | none => (a, none)
    ((optionNames specs).filter fun p => stem.toList.isPrefixOf p.1.toList).map fun p =>
      ⟨p.2, p.1, value⟩
  | '-' :: c :: rest =>
    (optionNames specs).filterMap fun p =>
      if p.1.toList = ['-', c] then some ⟨p.2, p.1, some (String.ofList rest)⟩
      else if a.toList.isPrefixOf p.1.toList then some ⟨p.2, p.1, none⟩
      else none
  | _ => []

/-- Whether an argument looks like a negative number. -/
def looksNegative (a : String) : Bool :=
  let cs := a.toList
  let line := if cs.getLast? == some '\n' then cs.dropLast else cs
  match line with
  | '-' :: body =>
    let whole := body.takeWhile Text.isScriptDecimal
    match body.dropWhile Text.isScriptDecimal with
    | [] => !whole.isEmpty
    | '.' :: fraction => !fraction.isEmpty && fraction.all Text.isScriptDecimal
    | _ => false
  | _ => false

/-- What an argument is, as long as no mark has ended the options. -/
def classify (specs : List (OptionSpec ι)) (a : String) : Except UsageFault (ArgKind ι) :=
  if a.toList.head? != some '-' then .ok .operand
  else match findOption specs a with
    | some o => .ok (.option ⟨o, a, none⟩)
    | none =>
      -- A dash alone is an operand.
      if a.length = 1 then .ok .operand
      else
        let exact := (splitEquals a).bind fun p =>
          (findOption specs p.1).map fun o => (⟨o, p.1, some p.2⟩ : OptionUse ι)
        match exact with
        | some use => .ok (.option use)
        | none =>
          -- No exact name: the argument may be short for one.
          match candidates specs a with
          | [use] => .ok (.option use)
          | [] =>
            if looksNegative a || a.toList.contains ' ' then .ok .operand else .ok .foreign
          | uses => .error (.ambiguous a (uses.map (·.name)))

/-- The mark that ends the options. -/
def endMark : String := "--"

/-- What all arguments are. -/
def classifyAll (specs : List (OptionSpec ι)) :
    List String → Except UsageFault (List (String × ArgKind ι))
  | [] => .ok []
  | a :: rest =>
    if a == endMark then .ok ((a, .separator) :: rest.map fun b => (b, .operand))
    else match classify specs a with
      | .error f => .error f
      | .ok k =>
        match classifyAll specs rest with
        | .error f => .error f
        | .ok ks => .ok ((a, k) :: ks)

/-! ## Reading options -/

/-- What reading one argument with options gives: the options with their values, and the arguments
    behind it.  An option has no value if it takes none, or if a mark stands in place of it. -/
structure OptionRead (ι : Type) where
  taken : List (OptionSpec ι × Option String)
  rest : List (String × ArgKind ι)

/-- The value that a text stands for; the mark that ends the options stands for none. -/
def attachedValue (text : String) : Option String := if text = endMark then none else some text

/-- An option without attached value. -/
def readPlain (o : OptionSpec ι) (rest : List (String × ArgKind ι)) :
    Except UsageFault (OptionRead ι) :=
  if !o.takesValue then .ok ⟨[(o, none)], rest⟩
  else match rest with
    | (v, .operand) :: rest => .ok ⟨[(o, some v)], rest⟩
    | _ => .error (.missingValue o.title)

/-- Whether an option is called by a name with two dashes. -/
def isLong (name : String) : Bool := (name.toList.drop 1).head? == some '-'

/-- An option with the text that is attached to it.  The text is its value, or further short
    options if it takes none. -/
def readAttached (specs : List (OptionSpec ι)) (o : OptionSpec ι) (name : String)
    (value : List Char) (rest : List (String × ArgKind ι)) : Except UsageFault (OptionRead ι) :=
  let ignored := UsageFault.ignoredValue o.title (String.ofList value)
  if o.takesValue then .ok ⟨[(o, attachedValue (String.ofList value))], rest⟩
  else if isLong name then .error ignored
  else match value with
    | [] => .error ignored
    | c :: more =>
      let short := String.ofList ['-', c]
      match findOption specs short with
      | none => .error ignored
      | some next =>
        let further := match more with
          | [] => readPlain next rest
          | d :: ds => readAttached specs next short (d :: ds) rest
        further.map fun r => { r with taken := (o, none) :: r.taken }
termination_by value.length

/-- An option with its value. -/
def readOption (specs : List (OptionSpec ι)) (use : OptionUse ι)
    (rest : List (String × ArgKind ι)) : Except UsageFault (OptionRead ι) :=
  match use.value with
  | none => readPlain use.spec rest
  | some v => readAttached specs use.spec use.name v.toList rest

/-! ## Reading all arguments -/

/-- What ends the reading of a command line early. -/
inductive Interruption where
  | help
  | fault (f : UsageFault)
  deriving DecidableEq, Repr

/-- What a command line says. -/
structure Arguments (ι : Type) where
  /-- The options with their values, in order. -/
  options : List (ι × Option String)
  /-- The operand, or the command with all that follows it; empty if it is missing. -/
  operand : List String
  /-- The arguments that nobody wants. -/
  extras : List String

/-- Checks the options that were read against their choices; help is asked for by the option
    that `isHelp` accepts. -/
def takeOptions (isHelp : ι → Bool) :
    List (OptionSpec ι × Option String) → Except Interruption (List (ι × Option String))
  | [] => .ok []
  | (o, value) :: rest =>
    if isHelp o.id then .error .help
    else match value.filter fun v => !o.choices.isEmpty && !o.choices.contains v with
      | some v => .error (.fault (.invalidChoice o.title v o.choices))
      | none => (fun ts => (o.id, value) :: ts) <$> takeOptions isHelp rest

/-- The operand at the head of the arguments with the marks around it, and what is behind. -/
def takeOperand (spec : OperandSpec) (args : List (String × ArgKind ι)) :
    Option (List String × List (String × ArgKind ι)) :=
  match spec, args with
  | .command, (_, .operand) :: _ => some (args.map (·.1), [])
  | .command, (_, .separator) :: (_, .operand) :: _ => some (args.map (·.1), [])
  | .single, (a, .operand) :: (_, .separator) :: rest => some ([a], rest)
  | .single, (a, .operand) :: rest => some ([a], rest)
  | .single, (_, .separator) :: (a, .operand) :: rest => some ([a], rest)
  | _, _ => none

/-- Reads classified arguments from left to right; `fuel` is at least their number. -/
def scanArgs (specs : List (OptionSpec ι)) (isHelp : ι → Bool) (spec : OperandSpec) :
    (fuel : Nat) → (acc : Arguments ι) → List (String × ArgKind ι) →
    Except Interruption (Arguments ι)
  | 0, acc, _ => .ok acc
  | _ + 1, acc, [] => .ok acc
  | k + 1, acc, (a, .foreign) :: rest =>
    scanArgs specs isHelp spec k { acc with extras := acc.extras ++ [a] } rest
  | k + 1, acc, (_, .option use) :: rest =>
    match readOption specs use rest with
    | .error f => .error (.fault f)
    | .ok r =>
      match takeOptions isHelp r.taken with
      | .error i => .error i
      | .ok ts =>
        scanArgs specs isHelp spec k { acc with options := acc.options ++ ts } r.rest
  | k + 1, acc, (a, kind) :: rest =>
    match if acc.operand.isEmpty then takeOperand spec ((a, kind) :: rest) else none with
    | some (operand, rest) => scanArgs specs isHelp spec k { acc with operand } rest
    | none => scanArgs specs isHelp spec k { acc with extras := acc.extras ++ [a] } rest

/-- What the arguments say. -/
def scan (specs : List (OptionSpec ι)) (isHelp : ι → Bool) (spec : OperandSpec)
    (args : List String) : Except Interruption (Arguments ι) :=
  match classifyAll specs args with
  | .error f => .error (.fault f)
  | .ok kinds => scanArgs specs isHelp spec (kinds.length + 1) ⟨[], [], []⟩ kinds

end HashIf.Command
