import HashIf.Decimal.Binary64

/-!
# `HashIf.Decimal.Shortest`: the shortest decimal that reads back

Of all decimals with the fewest digits that `Binary64.ofDecimal` maps back to a given double, the
one nearest to it; of two equally near ones, the one with an even last digit.  Seventeen digits
always suffice, and the exact expansion stands behind the search so that the result reads back
without appeal to that fact.

## Contents
- `floorLog10`: the place of the first digit.
- `nearestOnGrid?`: the nearer of the two neighbours on a decimal grid that read back.
- `Binary64.shortest`: the search over the grids of one to seventeen digits.
-/

namespace HashIf

/-- The exponent of the largest power of ten that is at most `num / den`. -/
def floorLog10 (num den : Nat) : Int :=
  let e : Int := (digitCount num : Int) - (digitCount den : Int)
  if powLeRatio 10 num den e then e else e - 1

namespace Binary64

/-- Whether the decimal reads back as `m · 2 ^ e`. -/
def readsBack (m : Nat) (e : Int) (d : Decimal) : Bool :=
  ofDecimal false d = .finite false m e

/-- The neighbour of `m · 2 ^ e` on the grid of multiples of `10 ^ grid` that reads back, the
    nearer one if both do, the even one in a tie. -/
def nearestOnGrid? (m : Nat) (e grid : Int) : Option Decimal :=
  let r := ratio m e
  let s := scaleRatio 10 r.1 r.2 grid
  let q := s.1 / s.2
  let rest := s.1 % s.2
  let below : Decimal := ⟨q, grid⟩
  let above : Decimal := ⟨q + 1, grid⟩
  match readsBack m e below, readsBack m e above with
  | true, true =>
    if 2 * rest < s.2 then some below
    else if s.2 < 2 * rest then some above
    else if q % 2 = 0 then some below
    else some above
  | true, false => some below
  | false, true => some above
  | false, false => none

/-- Tries the grids below `10 ^ (grid + 1)`, the coarsest first, `count` of them. -/
def searchGrids (m : Nat) (e : Int) : (count : Nat) → (grid : Int) → Option Decimal
  | 0, _ => none
  | k + 1, grid => (nearestOnGrid? m e grid).or (searchGrids m e k (grid - 1))

/-- The decimal that is equal to `m · 2 ^ e`. -/
def exactDecimal (m : Nat) (e : Int) : Decimal :=
  if 0 ≤ e then ⟨m * Nat.pow 2 e.toNat, 0⟩ else ⟨m * Nat.pow 5 (-e).toNat, e⟩

/-- The shortest decimal that reads back as `m · 2 ^ e`, without trailing zeros. -/
def shortest (m : Nat) (e : Int) : Decimal :=
  if m = 0 then ⟨0, 0⟩
  else
    let r := ratio m e
    ((searchGrids m e 17 (floorLog10 r.1 r.2)).getD (exactDecimal m e)).normalize

end Binary64

end HashIf
