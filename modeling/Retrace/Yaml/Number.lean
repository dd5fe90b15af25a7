import Retrace.Number.Arithmetic
import Retrace.Number.Lenient
import Retrace.Numeral.Lenient
import Retrace.Text.Case
import Retrace.Yaml.Fault

/-!
# Numbers in YAML

A plain scalar is a number if it has one of the forms of `isInteger` and `isReal`.  A scalar that
is tagged as a number is read more leniently: underscores do not count, and what is left must be a
numeral, or several ones between colons, which count in base 60.
-/

namespace Retrace.Yaml

/-! ## Forms of plain scalars -/

/-- Whether a character is a decimal digit or an underscore. -/
def isDigitOrGap (c : Char) : Bool := c.isDigit || c = '_'

/-- A text without a sign at its start. -/
def dropSign : Text → Text
  | '+' :: t => t
  | '-' :: t => t
  | t => t

/-- Whether a text is not empty and all of it is of a kind. -/
def isRun (p : Char → Bool) (t : Text) : Bool := !t.isEmpty && t.all p

/-- Whether a text is a digit of a kind with digits and underscores after it. -/
def isNumeral (p : Char → Bool) : Text → Bool
  | [] => false
  | c :: t => p c && t.all isDigitOrGap

/-- Whether a text is a number below 60 of one or two digits. -/
def isSixtieth : Text → Bool
  | [d] => d.isDigit
  | [c, d] => '0' ≤ c && c ≤ '5' && d.isDigit
  | _ => false

/-- Whether a text is a numeral with numbers below 60 after colons. -/
def isSexagesimal (p : Char → Bool) (t : Text) : Bool :=
  match Text.splitOn [':'] t with
  | first :: second :: parts => isNumeral p first && (second :: parts).all isSixtieth
  | _ => false

/-- Whether a digit is not zero. -/
def isNonzeroDigit (c : Char) : Bool := '1' ≤ c && c ≤ '9'

/-- Whether a plain scalar is a whole number. -/
def isInteger (t : Text) : Bool :=
  let t := dropSign t
  match t with
  | '0' :: 'b' :: ds => isRun (fun c => c = '0' || c = '1' || c = '_') ds
  | '0' :: 'x' :: ds =>
    isRun (fun c => c.isDigit || ('a' ≤ c && c ≤ 'f') || ('A' ≤ c && c ≤ 'F') || c = '_') ds
  | '0' :: ds => ds.all fun c => ('0' ≤ c && c ≤ '7') || c = '_'
  | t => isNumeral isNonzeroDigit t || isSexagesimal isNonzeroDigit t

/-- Whether a text is empty, or an exponent with a sign. -/
def isExponent : Text → Bool
  | [] => true
  | e :: sign :: ds => (e = 'e' || e = 'E') && (sign = '+' || sign = '-') && isRun Char.isDigit ds
  | _ => false

/-- Whether a text is digits and underscores with an exponent or nothing after them. -/
def isFraction (t : Text) : Bool := isExponent (t.dropWhile isDigitOrGap)

/-- The words for infinity. -/
def infinityWords : List Text := [".inf".toList, ".Inf".toList, ".INF".toList]

/-- The words for the value that is no number. -/
def notNumberWords : List Text := [".nan".toList, ".NaN".toList, ".NAN".toList]

/-- Whether a plain scalar is a real number. -/
def isReal (t : Text) : Bool :=
  let size := dropSign t
  let whole := size.takeWhile (· ≠ '.')
  notNumberWords.contains t || infinityWords.contains size ||
    match size.dropWhile (· ≠ '.') with
    | [] => false
    | _ :: fraction =>
      if whole.isEmpty then
        t = size && (fraction.head?.any Char.isDigit) && isFraction fraction
      else
        (isNumeral Char.isDigit whole && isFraction fraction)
          || (isSexagesimal Char.isDigit whole && fraction.all isDigitOrGap)

/-! ## Values -/

/-- Reads a whole number in a base. -/
def readBase (base : Nat) (t : Text) : Except Fault Int :=
  match Numeral.readLenientIn base t with
  | .ok n => .ok n
  | .error .noNumeral => .error (.noInteger base t)
  | .error (.numeral f) => .error (.numeral f)

/-- Reads a whole number without its sign. -/
def readSize (t : Text) : Except Fault Int :=
  match t with
  | [] => .error .emptyNumber
  | ['0'] => .ok 0
  | '0' :: 'b' :: ds => readBase 2 ds
  | '0' :: 'x' :: ds => readBase 16 ds
  | '0' :: _ => readBase 8 t
  | _ =>
    if ':' ∈ t then
      ((Text.splitOn [':'] t).mapM (readBase 10)).map fun parts =>
        parts.foldl (fun n part => 60 * n + part) 0
    else readBase 10 t

/-- Reads a whole number. -/
def readInteger (t : Text) : Except Fault Int :=
  match t.filter (· ≠ '_') with
  | [] => .error .emptyNumber
  | '-' :: t => (readSize t).map fun n => -n
  | '+' :: t => readSize t
  | t => readSize t

/-- Reads a part of a real number. -/
def readPart (t : Text) : Except Fault Binary64 :=
  match Binary64.readLenient? t with
  | some r => .ok r
  | none => .error (.noReal t)

/-- The sum of parts, the last one first, each sixty times as much as the one after it. -/
def sumSixtieths (sum : Binary64) (factor : Nat) : List Binary64 → Except Fault Binary64
  | [] => .ok sum
  | part :: parts =>
    match Binary64.ofRatio false factor 1 with
    | .infinite _ => .error .tooGreat
    | f => sumSixtieths (sum.add (part.mul f)) (factor * 60) parts

/-- Reads a real number without its sign, in small letters. -/
def readMagnitude (t : Text) : Except Fault Binary64 :=
  if t = ".inf".toList then .ok (.infinite false)
  else if t = ".nan".toList then .ok .notNumber
  else if ':' ∈ t then do
    let parts ← (Text.splitOn [':'] t).mapM readPart
    sumSixtieths (.zero false) 1 parts.reverse
  else readPart t

/-- Reads a real number. -/
def readReal (t : Text) : Except Fault Binary64 :=
  match Text.lower (t.filter (· ≠ '_')) with
  | [] => .error .emptyNumber
  | '-' :: t => (readMagnitude t).map Binary64.neg
  | '+' :: t => readMagnitude t
  | t => readMagnitude t

end Retrace.Yaml
