import Retrace.Number.Binary64
import Retrace.Numeral

/-!
# The shortest decimal text of a binary number

A positive binary64 number is written with the fewest decimal digits that read back as the same
number, and of those with the digits nearest to it.  The search goes over the decimal grids
`10 ^ k` from coarse to fine: a grid has a point that reads back exactly if one of the two
neighbours of the number on that grid does, so the first grid with such a neighbour has the fewest
digits.  Where the point and the exponent go is the business of a `DecimalLayout`.
-/

namespace Retrace

/-- Digits and a power of ten: `digits * 10 ^ exponent`. -/
structure Decimal where
  digits : Nat
  exponent : Int
deriving DecidableEq, Repr

namespace Binary64

/-- The factors that make `d * 10 ^ k` and `x * 2 ^ p` comparable as whole numbers: the first is
for `d`, the second for `x`. -/
def gridFactors (k p : Int) : Nat × Nat :=
  (Nat.pow 10 k.toNat * Nat.pow 2 (-p).toNat, Nat.pow 2 p.toNat * Nat.pow 10 (-k).toNat)

/-- The point of the grid `10 ^ k` that reads back as `m * 2 ^ e` and is nearest to it, an exact
tie going to the even one; `none` if no point of the grid reads back so. -/
def onGrid? (m : Nat) (e k : Int) : Option Nat :=
  -- All bounds are in quarters of a unit of the last place.
  let (forGrid, forValue) := gridFactors k (e - 2)
  let below := if m = Nat.pow 2 52 ∧ e > minExponent then 4 * m - 1 else 4 * m - 2
  let lo := below * forValue
  let mid := 4 * m * forValue
  let hi := (4 * m + 2) * forValue
  let closed := m % 2 = 0
  let readsBack (d : Nat) : Bool :=
    let x := d * forGrid
    (lo < x || (closed && x = lo)) && (x < hi || (closed && x = hi))
  let d := mid / forGrid
  let lower := readsBack d
  let upper := readsBack (d + 1)
  if lower && upper then
    let lowerGap := mid - d * forGrid
    let upperGap := (d + 1) * forGrid - mid
    if lowerGap < upperGap then some d
    else if upperGap < lowerGap then some (d + 1)
    else if d % 2 = 0 then some d else some (d + 1)
  else if lower then some d
  else if upper then some (d + 1)
  else none

/-- Tries the grids `10 ^ k`, `10 ^ (k - 1)`, … and takes the first one with a point. -/
def firstOnGrids (m : Nat) (e : Int) : Nat → Int → Decimal
  | 0, k => ⟨0, k⟩
  | tries + 1, k =>
    match onGrid? m e k with
    | some d => ⟨d, k⟩
    | none => firstOnGrids m e tries (k - 1)

/-- The shortest decimal that reads back as `m * 2 ^ e`, for positive `m`. -/
def shortest (m : Nat) (e : Int) : Decimal :=
  -- `log10 2` is just under `30103 / 100000`, so the first grid is coarser than the number.
  let coarse : Int := Int.fdiv (((m.log2 : Int) + e) * 30103) 100000 + 2
  firstOnGrids m e 24 coarse

end Binary64

/-- How a decimal is laid out as text. -/
structure DecimalLayout where
  /-- The number of places before the point up to which no exponent is written. -/
  positionalUpTo : Int
  /-- The number of places before the point, negative for zeros after it, from which on no
  exponent is written. -/
  positionalFrom : Int
  /-- The mark before the exponent. -/
  mark : Char
  /-- The least number of digits of the exponent. -/
  exponentDigits : Nat
  /-- The texts of infinity and of the value that is no number. -/
  infinity : Text
  notNumber : Text

namespace DecimalLayout

/-- The text of a positive decimal. -/
def decimalText (l : DecimalLayout) (d : Decimal) : Text :=
  let ds := Numeral.digits d.digits
  let places : Int := ds.length + d.exponent
  if places < l.positionalFrom ∨ places > l.positionalUpTo then
    let exponent := places - 1
    let size := Numeral.digits exponent.natAbs
    let sign := if exponent < 0 then '-' else '+'
    let fraction := match ds.drop 1 with
      | [] => []
      | rest => '.' :: rest
    ds.take 1 ++ fraction
      ++ l.mark :: sign :: (List.replicate (l.exponentDigits - size.length) '0' ++ size)
  else if places ≤ 0 then
    '0' :: '.' :: (List.replicate places.natAbs '0' ++ ds)
  else if places < ds.length then
    ds.take places.toNat ++ '.' :: ds.drop places.toNat
  else
    ds ++ List.replicate (places.toNat - ds.length) '0' ++ ['.', '0']

/-- The text of a binary64 number. -/
def text (l : DecimalLayout) : Binary64 → Text
  | .notNumber => l.notNumber
  | .infinite negative => if negative then '-' :: l.infinity else l.infinity
  | .finite negative m e =>
    let size := if m = 0 then ['0', '.', '0'] else l.decimalText (Binary64.shortest m e)
    if negative then '-' :: size else size

end DecimalLayout

end Retrace
