import HashIf.Operator

/-!
# `HashIf.Fault`: why a condition is rejected

Every rejection has one cause.  The causes are listed here together, with the stage that each of
them belongs to and the wording that is shown for it.

## Contents
- `Stage`: the part of the work that refuses a condition.
- `Fault`, `Fault.stage`, `Fault.message`.
- `LocatedFault`: a cause together with the place it was found at, if it has one.
-/

namespace HashIf

/-- The part of the work that refuses a condition. -/
inductive Stage where
  /-- Splitting the text into tokens. -/
  | lexical
  /-- Matching brackets. -/
  | structural
  /-- Binding operators to their operands. -/
  | resolution
  /-- Giving a well-formed condition a meaning. -/
  | semantic
  /-- None of the above. -/
  | general
  deriving DecidableEq, Repr

/-- Why a condition is rejected. -/
inductive Fault where
  /-- A word that starts with a digit is no number. -/
  | badLiteral (word : String)
  /-- A name has a point in it. -/
  | pointInName
  /-- A character begins no token. -/
  | invalidCharacter (c : Char)
  /-- A closing bracket has no partner. -/
  | tooManyClosing
  /-- An opening bracket has no partner. -/
  | missingClosing
  /-- Brackets, or the whole condition, hold nothing. -/
  | expectedExpression
  /-- Several operands stand side by side. -/
  | noOperator
  /-- An operator stands alone. -/
  | missingOperand (op : Operator)
  /-- A unary operator has something on the side where its operand is not. -/
  | misplacedUnary
  /-- A binary operator lacks one of its operands. -/
  | missingSide
  /-- Binding the operators would take more calls than the stack has room for. -/
  | nestedTooDeeply
  /-- A bracketed list is left after all operators were bound. -/
  | unresolvedGroup
  /-- A variable is used as a truth value. -/
  | bareVariable (name : String)
  /-- A call of something that has no Boolean meaning. -/
  | unsupportedCall (name : String)
  /-- A comparison, while comparisons are not encoded. -/
  | comparisonNotEncoded (op : Operator)
  /-- A comparison of something else than variables and numbers. -/
  | incomparable
  /-- An operator that the interpreter gives no meaning. -/
  | unsupportedOperator (op : Operator)
  /-- A tree node that no condition resolves to, given by its text. -/
  | unexpectedNode (text : String)
  /-- A configuration test without argument. -/
  | testWithoutArgument (name : String)
  /-- A configuration test of something else than a variable. -/
  | testWithoutVariable (name : String)
  /-- Making a formula of the tree would take more calls than the stack has room for. -/
  | conditionTooDeep
  deriving DecidableEq, Repr

namespace Fault

/-- The stage that refuses the condition. -/
def stage : Fault → Stage
  | badLiteral _ | pointInName | invalidCharacter _ => .lexical
  | tooManyClosing | missingClosing => .structural
  | expectedExpression | noOperator | missingOperand _ | misplacedUnary | missingSide
  | nestedTooDeeply => .resolution
  | unresolvedGroup => .general
  | bareVariable _ | unsupportedCall _ | comparisonNotEncoded _ | incomparable
  | unsupportedOperator _ | unexpectedNode _ | testWithoutArgument _
  | testWithoutVariable _ | conditionTooDeep => .semantic

/-- The wording of a cause. -/
def message : Fault → String
  | badLiteral word => "Cannot parse literal " ++ word
  | pointInName => "Literal contains invalid character: '.'"
  | invalidCharacter c => "Invalid character in expression: '" ++ String.singleton c ++ "'"
  | tooManyClosing => "Unbalanced brackets (too many closing)"
  | missingClosing => "Unbalanced brackets (missing closing)"
  | expectedExpression => "Expected expression"
  | noOperator => "Couldn't find operator"
  | missingOperand op => "Missing operand for operator " ++ op.symbol
  | misplacedUnary => "Found elements on wrong side of unary operator"
  | missingSide => "Didn't find elements on both sides of binary operator"
  | nestedTooDeeply => "Expression is nested too deeply"
  | unresolvedGroup => "Unresolved expression list"
  | bareVariable name => "Found variable outside of defined() call: " ++ name
  | unsupportedCall name => "Unsupported function/macro: " ++ name
  | comparisonNotEncoded op => op.name ++ " is only supported if fuzzy parsing is enabled"
  | incomparable =>
    "Can only fuzzy-parse variables compared with integer literals or other variables"
  | unsupportedOperator op => "Unsupported operator: " ++ op.name
  | unexpectedNode text => "Unexpected expression: " ++ text
  | testWithoutArgument name => "Can't handle function " ++ name ++ " without argument"
  | testWithoutVariable name => name ++ "() call without variable"
  | conditionTooDeep => "Condition is nested too deeply"

end Fault

/-- A cause and the offset it was found at. -/
structure LocatedFault where
  fault : Fault
  pos : Option Int
  deriving DecidableEq, Repr

end HashIf
