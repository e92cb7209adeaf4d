/-!
# `HashIf.Operator`: the operators of a condition

Each operator has a name, a symbol and a precedence; the lower the precedence, the looser the
operator binds.  The signs `+` and `-` are the symbols of two operators each, told apart by where
they stand.

## Contents
- `Operator` and its properties `name`, `symbol`, `precedence`, `isUnary`, `followsOperand`,
  `isComparison`, `isConnective`.
- `Operator.ofName?`: the operator with a given name.
-/

namespace HashIf

/-- The operators of `#if` and `#elif` conditions, in the order of their precedence. -/
inductive Operator where
  | boolOr | boolAnd
  | bitOr | bitXor | bitAnd
  | eq | ne
  | lt | le | gt | ge
  | shiftLeft | shiftRight
  | add | sub
  | mul | div | mod
  | boolNot | bitNot | plus | minus | increment | decrement
  deriving DecidableEq, Repr

namespace Operator

/-- All operators, the loosest first. -/
def all : List Operator :=
  [boolOr, boolAnd, bitOr, bitXor, bitAnd, eq, ne, lt, le, gt, ge, shiftLeft, shiftRight,
   add, sub, mul, div, mod, boolNot, bitNot, plus, minus, increment, decrement]

/-- The name under which messages and trees refer to an operator. -/
def name : Operator → String
  | boolOr => "BOOL_OR"
  | boolAnd => "BOOL_AND"
  | bitOr => "BIN_OR"
  | bitXor => "BIN_XOR"
  | bitAnd => "BIN_AND"
  | eq => "CMP_EQ"
  | ne => "CMP_NE"
  | lt => "CMP_LT"
  | le => "CMP_LE"
  | gt => "CMP_GT"
  | ge => "CMP_GE"
  | shiftLeft => "BIN_SHL"
  | shiftRight => "BIN_SHR"
  | add => "INT_ADD"
  | sub => "INT_SUB"
  | mul => "INT_MUL"
  | div => "INT_DIV"
  | mod => "INT_MOD"
  | boolNot => "BOOL_NOT"
  | bitNot => "BIN_INV"
  | plus => "INT_ADD_UNARY"
  | minus => "INT_SUB_UNARY"
  | increment => "INT_INC"
  | decrement => "INT_DEC"

/-- The characters of the symbol of an operator. -/
def symbolChars : Operator → List Char
  | boolOr => ['|', '|']
  | boolAnd => ['&', '&']
  | bitOr => ['|']
  | bitXor => ['^']
  | bitAnd => ['&']
  | eq => ['=', '=']
  | ne => ['!', '=']
  | lt => ['<']
  | le => ['<', '=']
  | gt => ['>']
  | ge => ['>', '=']
  | shiftLeft => ['<', '<']
  | shiftRight => ['>', '>']
  | add => ['+']
  | sub => ['-']
  | mul => ['*']
  | div => ['/']
  | mod => ['%']
  | boolNot => ['!']
  | bitNot => ['~']
  | plus => ['+']
  | minus => ['-']
  | increment => ['+', '+']
  | decrement => ['-', '-']

/-- The symbol of an operator. -/
def symbol (op : Operator) : String := String.ofList op.symbolChars

/-- How tightly an operator binds: `1` is the loosest binary operator, `10` the tightest, and all
    unary operators have `11`. -/
def precedence : Operator → Nat
  | boolOr => 1
  | boolAnd => 2
  | bitOr => 3
  | bitXor => 4
  | bitAnd => 5
  | eq | ne => 6
  | lt | le | gt | ge => 7
  | shiftLeft | shiftRight => 8
  | add | sub => 9
  | mul | div | mod => 10
  | boolNot | bitNot | plus | minus | increment | decrement => 11

/-- Whether the operator takes one operand. -/
def isUnary : Operator → Bool
  | boolNot | bitNot | plus | minus | increment | decrement => true
  | _ => false

/-- Whether the operator may stand behind its operand. -/
def followsOperand : Operator → Bool
  | increment | decrement => true
  | _ => false

/-- Whether the operator compares two numbers. -/
def isComparison : Operator → Bool
  | eq | ne | lt | le | gt | ge => true
  | _ => false

/-- Whether the operator is a binary connective of propositional logic. -/
def isConnective : Operator → Bool
  | boolAnd | boolOr => true
  | _ => false

/-- The operator with the given name. -/
def ofName? (s : String) : Option Operator := all.find? (·.name == s)

/-- A symbol has one character or two. -/
theorem symbolChars_length_pos (op : Operator) : 0 < op.symbolChars.length := by
  cases op <;> decide

end Operator

end HashIf
