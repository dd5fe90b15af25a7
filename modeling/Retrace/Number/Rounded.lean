import Retrace.Number.Binary64
import Retrace.Numeral

/-!
# Binary numbers with a set number of digits

A number is written with a set number of places after the point, with an exponent, or in the
shorter of the two ways.  The digits are those of the nearest decimal, a tie going to the even
digit.
-/

namespace Retrace.Binary64

/-- Numerator and denominator of `m * 2 ^ e`. -/
def fractionOf (m : Nat) (e : Int) : Nat × Nat :=
  if e < 0 then (m, Nat.pow 2 e.natAbs) else (m * Nat.pow 2 e.natAbs, 1)

/-- The whole number nearest to `num / den * 10 ^ k`. -/
def scaledDecimal (num den : Nat) (k : Int) : Nat :=
  if k < 0 then roundEven num (den * Nat.pow 10 k.natAbs)
  else roundEven (num * Nat.pow 10 k.natAbs) den

/-- The digits of a number with a point before the last `places` of them.  The point is left out
if there is nothing after it, unless it is to be kept. -/
def pointed (keepPoint : Bool) (places n : Nat) : Text :=
  let ds := Numeral.digits n
  let ds := List.replicate (places + 1 - ds.length) '0' ++ ds
  let whole := ds.take (ds.length - places)
  if places = 0 then if keepPoint then whole ++ ['.'] else whole
  else whole ++ '.' :: ds.drop (ds.length - places)

/-- A number with a set number of places after the point. -/
def fixed (keepPoint : Bool) (places m : Nat) (e : Int) : Text :=
  let (num, den) := fractionOf m e
  pointed keepPoint places (scaledDecimal num den places)

/-- The power of ten of the first digit of `num / den`, for a positive numerator. -/
def leadingPower (num den : Nat) : Int :=
  let guess : Int := (Numeral.digits num).length - (Numeral.digits den).length
  -- The quotient is at least `10 ^ (guess - 1)` and below `10 ^ (guess + 1)`.
  let below : Bool :=
    if guess < 0 then num * Nat.pow 10 guess.natAbs < den
    else num < den * Nat.pow 10 guess.natAbs
  if below then guess - 1 else guess

/-- The first `places + 1` digits of a number, as a whole number, and the power of ten of the
first one. -/
def significant (places m : Nat) (e : Int) : Nat × Int :=
  if m = 0 then (0, 0)
  else
    let (num, den) := fractionOf m e
    let power := leadingPower num den
    let n := scaledDecimal num den (places - power)
    if n = Nat.pow 10 (places + 1) then (Nat.pow 10 places, power + 1) else (n, power)

/-- An exponent with its sign and two digits at least. -/
def exponentText (mark : Char) (power : Int) : Text :=
  let ds := Numeral.digits power.natAbs
  mark :: (if power < 0 then '-' else '+') :: (List.replicate (2 - ds.length) '0' ++ ds)

/-- A number with an exponent and a set number of places after the point. -/
def scientific (keepPoint : Bool) (mark : Char) (places m : Nat) (e : Int) : Text :=
  let (n, power) := significant places m e
  pointed keepPoint places n ++ exponentText mark power

/-- A text with a point, without the zeros at its end and without a point at its end. -/
def dropZeros (t : Text) : Text :=
  if '.' ∈ t then
    (((t.reverse.dropWhile (· = '0')).dropWhile (· = '.')).reverse)
  else t

/-- A number with a set number of digits, with an exponent where the first digit stands far from
the point. -/
def general (keepZeros : Bool) (mark : Char) (digits m : Nat) (e : Int) : Text :=
  let digits := max digits 1
  let (n, power) := significant (digits - 1) m e
  if power < -4 ∨ (digits : Int) ≤ power then
    let size := pointed keepZeros (digits - 1) n
    (if keepZeros then size else dropZeros size) ++ exponentText mark power
  else
    let size := fixed keepZeros ((digits : Int) - 1 - power).toNat m e
    if keepZeros then size else dropZeros size

end Retrace.Binary64
