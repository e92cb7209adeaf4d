import HashIf.Decimal.Numeral

/-!
# `HashIf.Decimal.Binary64`: double-precision numbers in exact arithmetic

A finite double is a sign, a mantissa below `2 ^ 53` and a binary exponent between `-1074` and
`971`; all rounding is done on fractions of natural numbers.

## Contents
- `roundHalfEven`, `floorLog2`: the two facts about a fraction that rounding needs.
- `Binary64.ofRatio`, `Binary64.ofDecimal`: the double nearest to a fraction and to a decimal, a
  tie going to the even mantissa, everything from half a unit above the largest double on being
  infinite.
- `Binary64.isIntegral`, `Binary64.toInt`, `Binary64.isZero`, `Binary64.sameValue`.
-/

namespace HashIf

/-- The natural number nearest to `num / den`, the even one of two. -/
def roundHalfEven (num den : Nat) : Nat :=
  let q := num / den
  let r := num % den
  if 2 * r < den then q
  else if den < 2 * r then q + 1
  else if q % 2 = 0 then q
  else q + 1

/-- `num / den` divided by `base ^ e`, as numerator and denominator. -/
def scaleRatio (base num den : Nat) (e : Int) : Nat × Nat :=
  if 0 ≤ e then (num, den * Nat.pow base e.toNat)
  else (num * Nat.pow base (-e).toNat, den)

/-- Whether `base ^ e ≤ num / den`. -/
def powLeRatio (base num den : Nat) (e : Int) : Bool :=
  let s := scaleRatio base num den e
  s.2 ≤ s.1

/-- The exponent of the largest power of two that is at most `num / den`. -/
def floorLog2 (num den : Nat) : Int :=
  let e : Int := (Nat.log2 num : Int) - (Nat.log2 den : Int)
  if powLeRatio 2 num den e then e else e - 1

/-- A double-precision number; `finite s m e` is `± m · 2 ^ e`. -/
inductive Binary64 where
  | finite (negative : Bool) (mantissa : Nat) (exponent : Int)
  | infinite (negative : Bool)
  | nan
  deriving DecidableEq, Repr

namespace Binary64

/-- What the mantissa of a finite double stays below: `2 ^ 53`. -/
def mantissaBound : Nat := 9007199254740992

/-- The least exponent of a finite double. -/
def minExponent : Int := -1074

/-- The greatest exponent of a finite double. -/
def maxExponent : Int := 971

/-- Zero with a sign. -/
def zero (negative : Bool) : Binary64 := .finite negative 0 minExponent

/-- The double nearest to `num / den`, ties going to the even mantissa. -/
def ofRatio (negative : Bool) (num den : Nat) : Binary64 :=
  if num = 0 then zero negative
  else
    let e := max (floorLog2 num den - 52) minExponent
    let s := scaleRatio 2 num den e
    let m := roundHalfEven s.1 s.2
    -- Rounding up may reach the next power of two.
    let (m, e) := if m = mantissaBound then (mantissaBound / 2, e + 1) else (m, e)
    if maxExponent < e then .infinite negative else .finite negative m e

/-- The double nearest to a decimal.  A decimal of at least `10 ^ 309` is above every double and
    one below `10 ^ (-324)` is nearest to zero, so huge exponents are never expanded. -/
def ofDecimal (negative : Bool) (d : Decimal) : Binary64 :=
  if d.digits = 0 then zero negative
  else
    let top : Int := digitCount d.digits + d.exponent
    if 310 ≤ top then .infinite negative
    else if top ≤ -324 then zero negative
    else if 0 ≤ d.exponent then ofRatio negative (d.digits * Nat.pow 10 d.exponent.toNat) 1
    else ofRatio negative d.digits (Nat.pow 10 (-d.exponent).toNat)

/-- `m · 2 ^ e` as a fraction. -/
def ratio (m : Nat) (e : Int) : Nat × Nat :=
  if 0 ≤ e then (m * Nat.pow 2 e.toNat, 1) else (m, Nat.pow 2 (-e).toNat)

/-- Whether the number is an integer; infinities and NaN are not. -/
def isIntegral : Binary64 → Bool
  | finite _ m e => let r := ratio m e; r.1 % r.2 = 0
  | _ => false

/-- The integer part, zero for infinities and NaN. -/
def toInt : Binary64 → Int
  | finite s m e =>
    let r := ratio m e
    let n : Int := ((r.1 / r.2 : Nat) : Int)
    if s then -n else n
  | _ => 0

/-- Whether the number is one of the two zeros. -/
def isZero : Binary64 → Bool
  | finite _ m _ => m = 0
  | _ => false

/-- Equality of value: the two zeros are one value, and NaN has none. -/
def sameValue : Binary64 → Binary64 → Bool
  | finite s m e, finite s' m' e' =>
    if m = 0 ∨ m' = 0 then m = m'
    else
      let r := ratio m e
      let r' := ratio m' e'
      s = s' && r.1 * r'.2 = r'.1 * r.2
  | infinite s, infinite s' => s = s'
  | _, _ => false

/-- Reads a number with an optional sign; `inf`, `infinity` and `nan` are read in any case. -/
def read? (cs : List Char) : Option Binary64 :=
  let (negative, rest) := match cs with
    | '-' :: r => (true, r)
    | '+' :: r => (false, r)
    | r => (false, r)
  let word := String.ofList (rest.map Char.toLower)
  if word == "inf" || word == "infinity" then some (.infinite negative)
  else if word == "nan" then some .nan
  else (Decimal.read? rest).map (ofDecimal negative)

end Binary64

end HashIf
