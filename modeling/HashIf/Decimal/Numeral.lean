/-!
# `HashIf.Decimal.Numeral`: decimal notation

A decimal is a natural number of digits times a power of ten.

## Contents
- `ofDigits`: the number that a row of digits denotes.
- `Decimal`, `Decimal.normalize`: digits and exponent, and the form without trailing zeros.
- `Decimal.read?`: the unsigned notation `12`, `1.5`, `1.`, `.5`, each with an optional exponent.
-/

namespace HashIf

/-- The number that a row of decimal digits denotes. -/
def ofDigits (ds : List Char) : Nat :=
  ds.foldl (fun n c => 10 * n + (c.toNat - 0x30)) 0

/-- How many digits the decimal notation of `n` has. -/
def digitCount (n : Nat) : Nat := (Nat.toDigits 10 n).length

/-- The number `digits · 10 ^ exponent`. -/
structure Decimal where
  digits : Nat
  exponent : Int
  deriving DecidableEq, Repr

namespace Decimal

/-- Moves up to `fuel` trailing zeros of `digits` into the exponent. -/
def stripZeros : (fuel digits : Nat) → (exponent : Int) → Decimal
  | 0, d, e => ⟨d, e⟩
  | k + 1, d, e => if d % 10 = 0 then stripZeros k (d / 10) (e + 1) else ⟨d, e⟩

/-- The same number with no trailing zero among its digits. -/
def normalize (d : Decimal) : Decimal :=
  if d.digits = 0 then ⟨0, 0⟩ else stripZeros (digitCount d.digits) d.digits d.exponent

/-- The exponent part of a numeral: nothing, or `e` with an optional sign and digits. -/
def readExponent? : List Char → Option Int
  | [] => some 0
  | c :: cs =>
    if c != 'e' && c != 'E' then none
    else
      let (negative, ds) := match cs with
        | '-' :: ds => (true, ds)
        | '+' :: ds => (false, ds)
        | ds => (false, ds)
      if ds.isEmpty || !ds.all Char.isDigit then none
      else some (if negative then -(ofDigits ds : Int) else ofDigits ds)

/-- Reads an unsigned decimal numeral.  There is a digit before or after the point. -/
def read? (cs : List Char) : Option Decimal :=
  let whole := cs.takeWhile Char.isDigit
  let rest := cs.dropWhile Char.isDigit
  let (fraction, rest) := match rest with
    | '.' :: r => (r.takeWhile Char.isDigit, r.dropWhile Char.isDigit)
    | r => ([], r)
  if whole.isEmpty && fraction.isEmpty then none
  else (readExponent? rest).map fun e => ⟨ofDigits (whole ++ fraction), e - fraction.length⟩

end Decimal

end HashIf
