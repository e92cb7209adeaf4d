import HashIf.Decimal.Layout

/-!
# `HashIf.Number`: the numbers of a condition

A number is an integer of any size or a double.  A numeral with a point or an exponent is rounded
to a double first, and a double that is an integer becomes that integer, so that `1.0`, `1e0` and
`1` are the same number.

## Contents
- `Number`, `Number.isZero`, `Number.sameValue`.
- `Number.ofNumeral`: the number that a numeral denotes, or the reason why it denotes none.
- `Number.plain`: digits with at most one point; it is itself a numeral for the same number.
- `Number.display`: the text shown in the table of tokens.
-/

namespace HashIf

/-- An integer or a double. -/
inductive Number where
  | int (value : Int)
  | float (value : Binary64)
  deriving DecidableEq, Repr

/-- Why a text denotes no number. -/
inductive NumeralFault where
  /-- The text is not a decimal numeral, or is beyond the range of doubles. -/
  | malformed
  /-- The text is a row of more digits than integers may have. -/
  | tooManyDigits (count : Nat)
  deriving DecidableEq, Repr

namespace Number

/-- The greatest number of digits of an integer numeral, leading zeros included. -/
def digitLimit : Nat := 4300

/-- The integer that the double is, or else the double itself. -/
def ofBinary64 (x : Binary64) : Number :=
  if x.isIntegral then .int x.toInt else .float x

/-- The number that a numeral without sign and suffix denotes. -/
def ofNumeral (cs : List Char) : Except NumeralFault Number :=
  if !cs.isEmpty && cs.all Char.isDigit then
    if digitLimit < cs.length then .error (.tooManyDigits cs.length)
    else .ok (.int (ofDigits cs))
  else match Decimal.read? cs with
    | none => .error .malformed
    | some d => match Binary64.ofDecimal false d with
      | .finite s m e => .ok (ofBinary64 (.finite s m e))
      | _ => .error .malformed

/-- Whether the number is zero. -/
def isZero : Number → Bool
  | int n => n = 0
  | float x => x.isZero

/-- Equality of value across the two kinds. -/
def sameValue : Number → Number → Bool
  | int m, int n => m = n
  | int m, float x => x.isIntegral && x.toInt = m
  | float x, int n => x.isIntegral && x.toInt = n
  | float x, float y => x.sameValue y

/-- The number without exponent, as it is written in a condition. -/
def plain : Number → String
  | int n => toString n
  | float x => x.plain

/-- The number as it is shown in a table. -/
def display : Number → String
  | int n => toString n
  | float x => x.display

end Number

end HashIf
