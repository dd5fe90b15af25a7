import Retrace.Numeral
import Retrace.Text.Digit

/-!
# Lenient numerals

A lenient numeral may have blanks around it and a sign, may have single underscores between its
digits, and may use the decimal digits of any script.  In base 2, 8 and 16 the mark of the base,
such as `0x`, may come before the digits.
-/

namespace Retrace.Numeral

/-- Why a text is no lenient numeral. -/
inductive LenientFault
  | noNumeral
  | numeral (f : Fault)
deriving DecidableEq, Repr

/-- The value of a digit in a base of at most 36. -/
def digitIn? (base : Nat) (c : Char) : Option Nat :=
  let value? :=
    if 'a' ≤ c ∧ c ≤ 'z' then some (c.toNat - 'a'.toNat + 10)
    else if 'A' ≤ c ∧ c ≤ 'Z' then some (c.toNat - 'A'.toNat + 10)
    else Text.decimalValue? c
  value?.filter (· < base)

/-- Whether a character may stand among the digits. -/
def isDigitOrUnderscore (base : Nat) (c : Char) : Bool := c = '_' || (digitIn? base c).isSome

/-- Whether underscores stand between digits only, one at a time, with a digit before the text if
`afterDigit` says so. -/
def underscoresSpaced (afterDigit : Bool) : Text → Bool
  | [] => afterDigit
  | c :: t => if c = '_' then afterDigit && underscoresSpaced false t else underscoresSpaced true t

/-- The letter that marks a base after a zero. -/
def baseMark? (base : Nat) : Option (Char × Char) :=
  if base = 2 then some ('b', 'B')
  else if base = 8 then some ('o', 'O')
  else if base = 16 then some ('x', 'X')
  else none

/-- A text without the mark of its base, and without an underscore after that. -/
def dropBaseMark (base : Nat) (t : Text) : Text :=
  match baseMark? base, t with
  | some (small, large), '0' :: c :: t' =>
    if c = small ∨ c = large then
      match t' with
      | '_' :: t'' => t''
      | _ => t'
    else t
  | _, _ => t

/-- The number that a lenient numeral stands for.  The limit on the number of digits holds for
the base ten. -/
def readLenientIn (base : Nat) (t : Text) : Except LenientFault Int :=
  let (negative, t) := match t.dropWhile Text.isBlank with
    | '-' :: t => (true, t)
    | '+' :: t => (false, t)
    | t => (false, t)
  let t := dropBaseMark base t
  let run := t.takeWhile (isDigitOrUnderscore base)
  let rest := t.dropWhile (isDigitOrUnderscore base)
  let ds := run.filterMap (digitIn? base)
  if !run.isEmpty && !underscoresSpaced false run then .error .noNumeral
  else if base = 10 ∧ ds.length > digitLimit then .error (.numeral (.tooLongToRead ds.length))
  else if run.isEmpty || !rest.all Text.isBlank then .error .noNumeral
  else
    let n := ds.foldl (fun n d => base * n + d) 0
    .ok (if negative then -(n : Int) else n)

/-- The number that a lenient decimal numeral stands for. -/
def readLenient (t : Text) : Except LenientFault Int := readLenientIn 10 t

end Retrace.Numeral
