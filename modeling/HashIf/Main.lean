import HashIf.Command.Run

/-!
# `HashIf.Main`: the program

The program reads the settings file that its arguments may name, runs the command line on its
content, and prints what the run gives.
-/

namespace HashIf.Program

/-- The content of a file that exists. -/
def contentOf (path : String) : IO (Option String) :=
  try
    some <$> IO.FS.readFile path
  catch _ =>
    pure none

/-- The settings that a command line names. -/
def configOf : Command.Invocation → Option String
  | .run _ (.parse i _ _) | .run _ (.names i) =>
    match i.config with
    | .text source => some source
    | _ => none
  | _ => none

/-- A record as a line. -/
def recordLine (r : LogRecord) : String :=
  "[" ++ r.source ++ "] [" ++ r.level.name ++ "] " ++ r.message

/-- Runs the program with the given arguments. -/
def start (args : List String) : IO UInt32 := do
  let path := (configOf (Command.readLine args)).map fun c => (Settings.SourcePath.ofText c).text
  let content ← match path with
    | some p => contentOf p
    | none => pure none
  let files := fun (p : String) => if path == some p then content else none
  match Command.run ⟨files, true⟩ args with
  | .error f =>
    IO.eprintln f.message
    return 1
  | .ok o =>
    for r in o.records do
      IO.eprintln (recordLine r)
    IO.print o.stdout
    IO.eprint o.stderr
    return o.exitCode.toUInt32

end HashIf.Program

def main (args : List String) : IO UInt32 := HashIf.Program.start args
