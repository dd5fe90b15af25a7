import Retrace.Number.Binary64
import Retrace.Text.Digit

/-!
# Lenient real numerals

A lenient real numeral may have blanks around it and a sign, may use the decimal digits of any
script, may leave out the digits on one side of the point, and may be a word for infinity or for
the value that is no number.
-/

namespace Retrace.Binary64

/-- A text without the blanks at its start and end. -/
def trim (t : Text) : Text :=
  ((t.dropWhile Text.isBlank).reverse.dropWhile Text.isBlank).reverse

/-- The small form of an ASCII letter. -/
def small (c : Char) : Char := if 'A' ≤ c ∧ c ≤ 'Z' then Char.ofNat (c.toNat + 32) else c

/-- The digits that a text starts with, and what follows them. -/
def spanDigits (t : Text) : List Nat × Text :=
  let isDigit (c : Char) : Bool := (Text.decimalValue? c).isSome
  ((t.takeWhile isDigit).filterMap Text.decimalValue?, t.dropWhile isDigit)

/-- The number of some decimal digits. -/
def digitsValue (ds : List Nat) : Nat := ds.foldl (fun n d => 10 * n + d) 0

/-- An exponent that makes up the whole of a text, zero for an empty one. -/
def exponent? : Text → Option Int
  | [] => some 0
  | c :: t =>
    if small c ≠ 'e' then none
    else
      let (negative, t) := match t with
        | '-' :: t => (true, t)
        | '+' :: t => (false, t)
        | t => (false, t)
      match spanDigits t with
      | (d :: ds, []) =>
        let n : Int := digitsValue (d :: ds)
        some (if negative then -n else n)
      | _ => none

/-- The number of a numeral without a sign. -/
def readUnsigned? (negative : Bool) (t : Text) : Option Binary64 :=
  let word := t.map small
  if word = "inf".toList ∨ word = "infinity".toList then some (.infinite negative)
  else if word = "nan".toList then some .notNumber
  else
    let (whole, rest) := spanDigits t
    let (fraction, rest) := match rest with
      | '.' :: rest => spanDigits rest
      | _ => ([], rest)
    if whole.isEmpty && fraction.isEmpty then none
    else
      (exponent? rest).map fun e =>
        ofDecimal negative (digitsValue (whole ++ fraction)) (e - fraction.length)

/-- The number that a lenient real numeral stands for. -/
def readLenient? (t : Text) : Option Binary64 :=
  match trim t with
  | '-' :: t => readUnsigned? true t
  | '+' :: t => readUnsigned? false t
  | t => readUnsigned? false t

end Retrace.Binary64
