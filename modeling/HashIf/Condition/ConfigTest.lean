import HashIf.Expr.Calls
import HashIf.Fault
import HashIf.Formula

/-!
# `HashIf.Condition.ConfigTest`: the calls that test a configuration

`defined(X)` is always known.  The Linux build configuration adds `IS_ENABLED`, `IS_MODULE` and
`IS_BUILTIN`: an option `X` that is built as a module is recorded as `X_MODULE`.

## Contents
- `ConfigTest`, `ConfigTest.ofName?`: the tests that are known.
- `ConfigTest.formula`: what a test says of a variable.
- `testedVariable`, `testFormula`: the formula of a call.
-/

namespace HashIf.Condition

/-- A test of the configuration. -/
inductive ConfigTest where
  | defined | isEnabled | isModule | isBuiltin
  deriving DecidableEq, Repr

namespace ConfigTest

/-- The test with the given name, if it is known. -/
def ofName? (linux : Bool) (name : String) : Option ConfigTest :=
  if name == Expr.definedName then some .defined
  else if !linux then none
  else if name == "IS_ENABLED" then some .isEnabled
  else if name == "IS_MODULE" then some .isModule
  else if name == "IS_BUILTIN" then some .isBuiltin
  else none

/-- The variable that says that `x` is built as a module. -/
def moduleName (x : String) : String := x ++ "_MODULE"

/-- What a test says of the variable `x`. -/
def formula (t : ConfigTest) (x : String) : Formula :=
  match t with
  | defined | isBuiltin => .var x
  | isModule => .var (moduleName x)
  | isEnabled => .or (.var x) (.var (moduleName x))

end ConfigTest

/-- The variable that a call at `pos` is about. -/
def testedVariable (name : String) (argument : Option Expr) (pos : Option Int) :
    Except LocatedFault String :=
  match argument with
  | none => .error ⟨.testWithoutArgument name, pos⟩
  | some (.var x _) => .ok x
  | some _ => .error ⟨.testWithoutVariable name, pos⟩

/-- The formula of a call of a known test, nothing for any other call. -/
def testFormula (linux : Bool) (name : String) (argument : Option Expr) (pos : Option Int) :
    Except LocatedFault (Option Formula) :=
  match ConfigTest.ofName? linux name with
  | none => .ok none
  | some t => (fun x => some (t.formula x)) <$> testedVariable name argument pos

end HashIf.Condition
