import Retrace.Base64

/-!
# Variable-length numbers

A whole number is written in base 64 digits, the least first.  A digit holds five bits of the
number and one that says whether more digits follow; the lowest bit of the whole is the sign.

A character outside the base 64 alphabet that is not above `z` reads as the greatest digit with
more to follow.
-/

namespace Retrace.Vlq

/-- A digit: five bits, and whether more digits follow. -/
structure Digit where
  bits : Nat
  more : Bool
deriving DecidableEq, Repr

/-- The digit that a character stands for. -/
def digit? (c : Char) : Option Digit :=
  if 'z' < c then none
  else
    match Base64.place? c with
    | some n => some ⟨n % 32, decide (32 ≤ n)⟩
    | none => some ⟨31, true⟩

/-- Why a text is no sequence of numbers. -/
inductive Fault
  /-- A character stands for no digit. -/
  | character
  /-- The text ends inside a number. -/
  | unfinished
deriving DecidableEq, Repr

/-- The number whose bits are given, the lowest one being the sign. -/
def signed (bits : Nat) : Int := if bits % 2 = 0 then (bits / 2 : Nat) else -(bits / 2 : Nat)

/-- Reads numbers, where `bits` are those of the number at hand from `shift / 5` digits. -/
def readFrom (bits shift : Nat) : Text → Except Fault (List Int)
  | [] => if bits = 0 ∧ shift = 0 then .ok [] else .error .unfinished
  | c :: t =>
    match digit? c with
    | none => .error .character
    | some d =>
      let bits := bits + d.bits * Nat.pow 2 shift
      if d.more then readFrom bits (shift + 5) t
      else
        match readFrom 0 0 t with
        | .error e => .error e
        | .ok ns => .ok (signed bits :: ns)

/-- The numbers of a text. -/
def read (t : Text) : Except Fault (List Int) := readFrom 0 0 t

end Retrace.Vlq
