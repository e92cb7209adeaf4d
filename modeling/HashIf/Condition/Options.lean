/-!
# `HashIf.Condition.Options`: how conditions are interpreted
-/

namespace HashIf.Condition

/-- What becomes of a condition that is not valid. -/
inductive InvalidPolicy where
  /-- It is refused. -/
  | refuse
  /-- It counts as true. -/
  | assumeTrue
  /-- It is replaced by a variable of its own. -/
  | errorVariable
  deriving DecidableEq, Repr

namespace InvalidPolicy

/-- All policies. -/
def all : List InvalidPolicy := [refuse, assumeTrue, errorVariable]

/-- The name of a policy in settings. -/
def name : InvalidPolicy → String
  | refuse => "EXCEPTION"
  | assumeTrue => "TRUE"
  | errorVariable => "ERROR_VARIABLE"

/-- The policy with the given name. -/
def ofName? (s : String) : Option InvalidPolicy := all.find? (·.name == s)

end InvalidPolicy

/-- How conditions are interpreted. -/
structure Options where
  /-- Whether the tests of the Linux build configuration are known. -/
  linux : Bool
  /-- Whether comparisons and bare variables are encoded as variables. -/
  fuzzy : Bool
  /-- What becomes of a condition that is not valid. -/
  invalid : InvalidPolicy
  deriving DecidableEq, Repr

/-- Everything off, and invalid conditions refused. -/
def Options.default : Options := ⟨false, false, .refuse⟩

end HashIf.Condition
