import Retrace.Text.Basic

/-!
# Decimal numerals

Whole numbers are read from and written as decimal digits, with a common limit on the number of
digits.  The limit counts every digit that is read, leading zeros too.
-/

namespace Retrace.Numeral

/-- The most digits that are read or written. -/
def digitLimit : Nat := 4300

/-- Why a number has no numeral, or a numeral no number. -/
inductive Fault
  /-- A numeral of `count` digits was to be read. -/
  | tooLongToRead (count : Nat)
  /-- A number with more digits than the limit was to be written. -/
  | tooLongToWrite
deriving DecidableEq, Repr

/-- The number that a run of digits stands for. -/
def value (digits : Text) : Nat :=
  digits.foldl (fun n c => 10 * n + (c.toNat - '0'.toNat)) 0

/-- The decimal digits of a natural number, without leading zeros. -/
def digits (n : Nat) : Text := Nat.toDigits 10 n

/-- The digits of a whole number, after a minus sign if it is negative. -/
def signedDigits (n : Int) : Text :=
  if n < 0 then '-' :: digits n.natAbs else digits n.natAbs

/-- Reads a run of digits. -/
def read (ds : Text) : Except Fault Nat :=
  if ds.length > digitLimit then .error (.tooLongToRead ds.length) else .ok (value ds)

/-- Writes a whole number. -/
def write (n : Int) : Except Fault Text :=
  if (digits n.natAbs).length > digitLimit then .error .tooLongToWrite else .ok (signedDigits n)

/-- The wording of a fault. -/
def Fault.message : Fault → Text
  | .tooLongToRead count =>
    "Exceeds the limit (4300 digits) for integer string conversion: value has ".toList
      ++ digits count
      ++ " digits; use sys.set_int_max_str_digits() to increase the limit".toList
  | .tooLongToWrite =>
    ("Exceeds the limit (4300 digits) for integer string conversion; "
      ++ "use sys.set_int_max_str_digits() to increase the limit").toList

end Retrace.Numeral
