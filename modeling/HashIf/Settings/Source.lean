import HashIf.Document.Toml
import HashIf.Log
import HashIf.Settings.Schema

/-!
# `HashIf.Settings.Source`: where settings come from

Settings come from nowhere, from a table, from a file, or from a document that is given as a text.
A text names a file if it stands on one line, its extension is that of a settings file and the
file exists; otherwise it is the document itself.

## Contents
- `SourcePath`: parts of a path, its text and its extension.
- `LoadFault`: why there are no settings.
- `readDocument`: a document as a table.
- `load`: the options of a source, and the records of how they were found.
-/

namespace HashIf.Settings

open HashIf.Condition (Options)
open HashIf.Document (Value Entries)

/-! ## Paths -/

/-- A path as its parts, without empty parts and references to the same directory. -/
structure SourcePath where
  absolute : Bool
  parts : List String

namespace SourcePath

/-- The path that a text spells. -/
def ofText (s : String) : SourcePath :=
  ⟨s.toList.head? == some '/',
    ((s.toList.splitOn '/').filter fun p => p != [] && p != ['.']).map String.ofList⟩

/-- The shortest text that spells the path. -/
def text (p : SourcePath) : String :=
  let body := "/".intercalate p.parts
  if p.absolute then "/" ++ body else if p.parts.isEmpty then "." else body

/-- The extension of the last part with its point, in lower case.  A point at the start or at
    the end of the name makes no extension. -/
def extension (p : SourcePath) : String :=
  let name := (p.parts.getLast?.getD "").toList
  let tail := name.reverse.takeWhile (· != '.')
  if tail.isEmpty || name.length ≤ tail.length + 1 then ""
  else String.ofList ('.' :: tail.reverse.map Char.toLower)

end SourcePath

/-! ## Documents -/

/-- Why there are no settings. -/
inductive LoadFault where
  /-- The document can not be read. -/
  | unreadable
  /-- The document is no table. -/
  | notTable
  /-- The table holds something wrong. -/
  | invalid (faults : List SettingFault)
  deriving DecidableEq, Repr

/-- The format of a document. -/
inductive Format where
  | json | toml
  deriving DecidableEq, Repr

/-- The format of a document without extension: JSON starts with a brace. -/
def guessFormat (cs : List Char) : Format :=
  if (Text.trimLeft cs).head? == some '{' then .json else .toml

/-- The value of a document. -/
def readValue (n : Format) (cs : List Char) : Option Value :=
  match n with
  | .json => Document.Json.read? cs
  | .toml => (Document.Toml.read? cs).map .table

/-- The table that may hold the settings inside a larger document. -/
def tableName : String := "cppcondition"

/-- The settings of a document: those in their own table if there is one. -/
def readDocument (n : Format) (cs : List Char) : Except LoadFault Entries :=
  match readValue n cs with
  | none => .error .unreadable
  | some (.table t) =>
    match Entries.get? tableName t with
    | some (.table own) => .ok own
    | _ => .ok t
  | some _ => .error .notTable

/-- Line ends of all kinds as line feeds. -/
def plainLines : List Char → List Char
  | '\r' :: '\n' :: rest => '\n' :: plainLines rest
  | '\r' :: rest => '\n' :: plainLines rest
  | c :: rest => c :: plainLines rest
  | [] => []

/-! ## Sources -/

/-- Where settings come from. -/
inductive Source where
  | none
  | table (t : Entries)
  /-- The name of a file, or a document. -/
  | text (s : String)
  /-- The name of a file. -/
  | path (s : String)

/-- The extensions of settings files. -/
def formatOf? (extension : String) : Option Format :=
  if extension == ".json" then some .json
  else if extension == ".toml" || extension == ".tml" then some .toml
  else Option.none

/-- The file that a source names: its path, its format and its content. -/
def fileOf (files : String → Option String) (s : String) : Option (String × Format × String) :=
  let path := SourcePath.ofText s
  (formatOf? path.extension).bind fun n =>
    (files path.text).map fun content => (path.text, n, content)

/-- A record of this module. -/
def record (message : String) : LogRecord := ⟨.debug, "cppcondition.config.loader", message⟩

/-- The options of a table. -/
def check (t : Entries) : Except LoadFault Options := (ofEntries t).mapError .invalid

/-- The options of a document. -/
def loadDocument (n : Format) (cs : List Char) : Except LoadFault Options :=
  match readDocument n cs with
  | .error e => .error e
  | .ok t => check t

/-- The options of a text: a file if it names one, else the document `inline`. -/
def loadText (file : Option (String × Format × String)) (inline : String) :
    Except LoadFault Options × List LogRecord :=
  match file with
  | some (path, n, content) =>
    (loadDocument n (plainLines content.toList), [record ("Loading settings from file " ++ path)])
  | Option.none => (loadDocument (guessFormat inline.toList) inline.toList, [])

/-- The options of a source, and the records of how they were found. -/
def load (files : String → Option String) : Source → Except LoadFault Options × List LogRecord
  | .none => (.ok Options.default, [record "No settings source provided; using defaults"])
  | .table t => (check t, [record "Loading settings from provided dict"])
  | .text s => loadText (if s.toList.contains '\n' then Option.none else fileOf files s) s
  | .path s => loadText (fileOf files s) (SourcePath.ofText s).text

end HashIf.Settings
