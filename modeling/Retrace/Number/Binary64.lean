/-!
# Double-precision binary numbers

A number of the binary64 format, held as the exact value `± m · 2 ^ e`, with infinities and the
one value that is no number.  `Binary64.ofRatio` rounds a fraction to the nearest such number, a
tie to the even significand, in exact arithmetic.
-/

namespace Retrace

/-- A binary64 number.  A finite one is `significand * 2 ^ exponent`, with a significand below
`2 ^ 53` and an exponent from `-1074` to `971`. -/
inductive Binary64
  | finite (negative : Bool) (significand : Nat) (exponent : Int)
  | infinite (negative : Bool)
  | notNumber
deriving DecidableEq, Repr, Inhabited

namespace Binary64

/-- The least exponent. -/
def minExponent : Int := -1074

/-- The greatest exponent of a finite number. -/
def maxExponent : Int := 971

/-- The zero of a sign. -/
def zero (negative : Bool) : Binary64 := .finite negative 0 minExponent

/-- Numerator and denominator of `num / den / 2 ^ e`. -/
def scale (num den : Nat) (e : Int) : Nat × Nat :=
  if e < 0 then (num * Nat.pow 2 e.natAbs, den) else (num, den * Nat.pow 2 e.natAbs)

/-- The whole number nearest to `num / den`; of two that are equally near, the even one. -/
def roundEven (num den : Nat) : Nat :=
  let q := num / den
  let r := num % den
  if 2 * r < den then q
  else if 2 * r > den then q + 1
  else if q % 2 = 0 then q else q + 1

/-- The binary64 number nearest to `num / den`, for a positive denominator. -/
def ofRatio (negative : Bool) (num den : Nat) : Binary64 :=
  if num = 0 then zero negative
  else
    let guess : Int := max ((num.log2 : Int) - (den.log2 : Int) - 53) minExponent
    let (n, d) := scale num den guess
    let e := if n / d ≥ Nat.pow 2 53 then guess + 1 else guess
    let (n, d) := scale num den e
    let m := roundEven n d
    let (m, e) := if m = Nat.pow 2 53 then (Nat.pow 2 52, e + 1) else (m, e)
    if e > maxExponent then .infinite negative else .finite negative m e

/-- The binary64 number nearest to `digits * 10 ^ exponent`. -/
def ofDecimal (negative : Bool) (digits : Nat) (exponent : Int) : Binary64 :=
  if digits = 0 then zero negative
  else
    -- Beyond these bounds the result does not depend on the digits.
    let magnitude : Int := (Nat.toDigits 10 digits).length + exponent
    if magnitude > 310 then .infinite negative
    else if magnitude < -330 then zero negative
    else if exponent < 0 then ofRatio negative digits (Nat.pow 10 exponent.natAbs)
    else ofRatio negative (digits * Nat.pow 10 exponent.natAbs) 1

/-- The whole part of a finite number, toward zero. -/
def truncate (negative : Bool) (significand : Nat) (exponent : Int) : Int :=
  let whole : Nat :=
    if exponent < 0 then significand / Nat.pow 2 exponent.natAbs
    else significand * Nat.pow 2 exponent.natAbs
  if negative then -(whole : Int) else (whole : Int)

/-- The whole number that a number without a fraction is. -/
def whole? : Binary64 → Option Int
  | .finite negative m e =>
    if e < 0 ∧ m % Nat.pow 2 e.natAbs ≠ 0 then none else some (truncate negative m e)
  | _ => none

/-- Whether a number is the whole number `n`. -/
def isWhole (n : Nat) : Binary64 → Bool
  | .finite negative m e =>
    (n = 0 || !negative) &&
      (if e < 0 then m = n * Nat.pow 2 e.natAbs else m * Nat.pow 2 e.natAbs = n)
  | _ => false

end Binary64

end Retrace
