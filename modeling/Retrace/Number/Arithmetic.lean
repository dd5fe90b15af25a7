import Retrace.Number.Binary64

/-!
# Sums and products of binary numbers

A sum or product is the exact one, rounded once.
-/

namespace Retrace.Binary64

/-- The number nearest to `n * 2 ^ e`, with the sign of a zero given. -/
def ofScaled (zeroNegative : Bool) (n : Int) (e : Int) : Binary64 :=
  if n = 0 then zero zeroNegative
  else if e < 0 then ofRatio (n < 0) n.natAbs (Nat.pow 2 e.natAbs)
  else ofRatio (n < 0) (n.natAbs * Nat.pow 2 e.natAbs) 1

/-- The number with the other sign. -/
def neg : Binary64 → Binary64
  | .finite negative m e => .finite (!negative) m e
  | .infinite negative => .infinite (!negative)
  | .notNumber => .notNumber

/-- The significand with its sign. -/
def signedSignificand (negative : Bool) (m : Nat) : Int := if negative then -(m : Int) else m

/-- The sum of two numbers. -/
def add : Binary64 → Binary64 → Binary64
  | .finite s m e, .finite t n f =>
    let low := min e f
    let sum := signedSignificand s m * Nat.pow 2 (e - low).toNat
      + signedSignificand t n * Nat.pow 2 (f - low).toNat
    ofScaled (s && t) sum low
  | .infinite s, .infinite t => if s = t then .infinite s else .notNumber
  | .infinite s, .finite .. | .finite .., .infinite s => .infinite s
  | .notNumber, _ | _, .notNumber => .notNumber

/-- The product of two numbers. -/
def mul : Binary64 → Binary64 → Binary64
  | .finite s m e, .finite t n f =>
    ofScaled (s != t) (signedSignificand s m * signedSignificand t n) (e + f)
  | .infinite s, .infinite t => .infinite (s != t)
  | .infinite s, .finite t m _ | .finite t m _, .infinite s =>
    if m = 0 then .notNumber else .infinite (s != t)
  | .notNumber, _ | _, .notNumber => .notNumber

end Retrace.Binary64
