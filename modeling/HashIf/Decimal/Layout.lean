import HashIf.Decimal.Shortest

/-!
# `HashIf.Decimal.Layout`: how the digits of a decimal are set out

## Contents
- `Decimal.positional`: digits around a point, at least one on either side.
- `Decimal.scientific`: one digit before the point and a signed exponent of two digits or more.
- `Binary64.plain`: a double without exponent.
- `Binary64.display`: a double as it is shown in a table, positional from `10 ^ (-4)` up to
  `10 ^ 16` and scientific elsewhere.
-/

namespace HashIf

/-- `n` zeros. -/
def zeros (n : Nat) : List Char := List.replicate n '0'

namespace Decimal

/-- The place of the point counted from the left of the digits. -/
def point (d : Decimal) : Int := digitCount d.digits + d.exponent

/-- Digits with a point and no exponent. -/
def positional (d : Decimal) : List Char :=
  let ds := Nat.toDigits 10 d.digits
  let p := d.point
  if p ≤ 0 then '0' :: '.' :: (zeros (-p).toNat ++ ds)
  else if ds.length ≤ p.toNat then ds ++ zeros (p.toNat - ds.length) ++ ['.', '0']
  else ds.take p.toNat ++ '.' :: ds.drop p.toNat

/-- The exponent of scientific notation. -/
def exponentText (e : Int) : List Char :=
  let ds := Nat.toDigits 10 e.natAbs
  (if e < 0 then '-' else '+') :: (zeros (2 - ds.length) ++ ds)

/-- One digit, the others after a point if there are any, and the exponent. -/
def scientific (d : Decimal) : List Char :=
  let mantissa := match Nat.toDigits 10 d.digits with
    | c :: [] => [c]
    | c :: cs => c :: '.' :: cs
    | [] => []
  mantissa ++ 'e' :: exponentText (d.point - 1)

end Decimal

namespace Binary64

/-- A sign in front of a text. -/
def signed (negative : Bool) (cs : List Char) : String :=
  String.ofList (if negative then '-' :: cs else cs)

/-- The number without exponent: an integer without point, anything else with the shortest
    digits that read back. -/
def plain : Binary64 → String
  | finite s m e =>
    if (finite s m e).isIntegral then toString (finite s m e).toInt
    else signed s (shortest m e).positional
  | infinite s => signed s "Infinity".toList
  | nan => "NaN"

/-- The number with the shortest digits that read back, in scientific notation when it is very
    small or very large. -/
def display : Binary64 → String
  | finite s m e =>
    let d := shortest m e
    signed s (if -3 ≤ d.point && d.point ≤ 16 then d.positional else d.scientific)
  | infinite s => signed s "inf".toList
  | nan => "nan"

end Binary64

end HashIf
