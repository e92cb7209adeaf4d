/-!
# `HashIf.Log`: what is put on record while a condition is processed

A record has a level, the name of the part that made it, and a message.  Records are values: the
functions that make them return them.
-/

namespace HashIf

/-- How important a record is. -/
inductive LogLevel where
  | debug | warning | error
  deriving DecidableEq, Repr

/-- The name of a level. -/
def LogLevel.name : LogLevel → String
  | debug => "DEBUG"
  | warning => "WARNING"
  | error => "ERROR"

/-- A record. -/
structure LogRecord where
  level : LogLevel
  source : String
  message : String
  deriving DecidableEq, Repr

/-- The messages of the warnings among the records. -/
def warningsOf (records : List LogRecord) : List String :=
  (records.filter (·.level == .warning)).map (·.message)

end HashIf
