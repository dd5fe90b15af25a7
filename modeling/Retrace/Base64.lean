import Retrace.Text.Basic

/-!
# Base 64

Bytes are read from characters of the base 64 alphabet, four of them for three bytes.  Characters
outside the alphabet are passed over, and nothing after the equals signs that fill the last four
counts.
-/

namespace Retrace.Base64

/-- The place of a character in the alphabet. -/
def place? (c : Char) : Option Nat :=
  if 'A' ≤ c ∧ c ≤ 'Z' then some (c.toNat - 'A'.toNat)
  else if 'a' ≤ c ∧ c ≤ 'z' then some (c.toNat - 'a'.toNat + 26)
  else if '0' ≤ c ∧ c ≤ '9' then some (c.toNat - '0'.toNat + 52)
  else if c = '+' then some 62
  else if c = '/' then some 63
  else none

/-- The bytes of four places with `filled` of them given, the others zero. -/
def bytes (filled : Nat) (a b c d : Nat) : List UInt8 :=
  let n := ((a * 64 + b) * 64 + c) * 64 + d
  ([n / 65536, n / 256 % 256, n % 256].take (filled - 1)).map Nat.toUInt8

/-- Reads the bytes of a text, where `quad` are the places read since the last full four, the last
one first, and `pads` the equals signs since the last of them.  `none` is a text that ends before
its last four are full. -/
def decodeFrom (quad : List Nat) (pads : Nat) : Text → Option (List UInt8)
  | [] => if quad.isEmpty then some [] else none
  | ch :: t =>
    if ch = '=' then
      match quad with
      | [b, a] => if pads = 0 then decodeFrom quad 1 t else some (bytes 2 a b 0 0)
      | [c, b, a] => some (bytes 3 a b c 0)
      | _ => decodeFrom quad pads t
    else
      match place? ch, quad with
      | none, _ => decodeFrom quad pads t
      | some d, [c, b, a] => (decodeFrom [] 0 t).map (bytes 4 a b c d ++ ·)
      | some p, quad => decodeFrom (p :: quad) 0 t

/-- The bytes of a text. -/
def decode (t : Text) : Option (List UInt8) := decodeFrom [] 0 t

end Retrace.Base64
