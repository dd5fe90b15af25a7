import Retrace.Json.Basic
import Retrace.Json.Fault
import Retrace.Text.Digit

/-!
# Reading JSON

A reader takes the text that is left and returns what it read with the text after it.  A reader
that fails says what text was left at the place of the fault, which the entry point `Json.parse`
turns into a line and a column.

Beyond the standard the reader takes `NaN`, `Infinity` and `-Infinity`, and a key that comes twice
keeps its last value.
-/

namespace Retrace.Json

/-- A fault inside a reader. -/
inductive Stop
  /-- The cause, and the text that was left where it was met. -/
  | misfit (cause : Cause) (left : Text)
  | numeral (f : Numeral.Fault)

/-- What a reader returns: a value and the rest of the text. -/
abbrev Reading (α : Type) := Except Stop (α × Text)

/-- Whether a character may stand between the tokens of a JSON text. -/
def isSpace (c : Char) : Bool := c = ' ' || c = '\t' || c = '\n' || c = '\r'

/-- A text without the spaces at its start. -/
def skipSpace (t : Text) : Text := t.dropWhile isSpace

/-! ## Texts -/

/-- The number that four hexadecimal digits stand for. -/
def hexCode? (a b c d : Char) : Option Nat := do
  let a ← Text.hexValue? a
  let b ← Text.hexValue? b
  let c ← Text.hexValue? c
  let d ← Text.hexValue? d
  pure (((a * 16 + b) * 16 + c) * 16 + d)

/-- Whether a code is the first half of a pair that stands for one character. -/
def isHighHalf (n : Nat) : Bool := 0xD800 ≤ n && n < 0xDC00

/-- Whether a code is the second half of such a pair. -/
def isLowHalf (n : Nat) : Bool := 0xDC00 ≤ n && n < 0xE000

/-- The character of a code; a half of a pair has none and becomes the replacement character. -/
def codeChar (n : Nat) : Char :=
  if isHighHalf n || isLowHalf n then '\uFFFD' else Char.ofNat n

/-- The character of a pair of halves. -/
def pairChar (high low : Nat) : Char :=
  Char.ofNat (0x10000 + (high - 0xD800) * 0x400 + (low - 0xDC00))

/-- The character that a letter after a backslash stands for. -/
def escapedChar? : Char → Option Char
  | '"' => some '"'
  | '\\' => some '\\'
  | '/' => some '/'
  | 'b' => some '\x08'
  | 'f' => some '\x0c'
  | 'n' => some '\n'
  | 'r' => some '\r'
  | 't' => some '\t'
  | _ => none

/-- Reads a code escape from the letter after the backslash on.  The first half of a pair takes
the second half along if an escape of it follows.  After the digits of an escape the text must go
on, since its quote is still to come. -/
def readCode : Text → Reading Char
  | u :: a :: b :: c :: d :: next :: rest =>
    match hexCode? a b c d with
    | none => .error (.misfit .codeEscape (u :: a :: b :: c :: d :: next :: rest))
    | some n =>
      match next, rest with
      | '\\', 'u' :: a' :: b' :: c' :: d' :: next' :: rest' =>
        if isHighHalf n then
          match hexCode? a' b' c' d' with
          | none => .error (.misfit .codeEscape ('u' :: a' :: b' :: c' :: d' :: next' :: rest'))
          | some n' =>
            if isLowHalf n' then .ok (pairChar n n', next' :: rest')
            else .ok (codeChar n, next :: rest)
        else .ok (codeChar n, next :: rest)
      | _, _ => .ok (codeChar n, next :: rest)
  | t => .error (.misfit .codeEscape t)

/-- Reads one character of a text, or the closing quote, for which there is no character.
`fromQuote` is the text that was left at the opening quote. -/
def readSpelling (fromQuote : Text) : Text → Reading (Option Char)
  | [] => .error (.misfit .unterminatedText fromQuote)
  | '"' :: t => .ok (none, t)
  | ['\\'] => .error (.misfit .unterminatedText fromQuote)
  | '\\' :: 'u' :: t => (readCode ('u' :: t)).map fun (c, rest) => (some c, rest)
  | '\\' :: c :: t =>
    match escapedChar? c with
    | some e => .ok (some e, t)
    | none => .error (.misfit .escape ('\\' :: c :: t))
  | c :: t =>
    if c.toNat < 0x20 then .error (.misfit .controlCharacter (c :: t))
    else .ok (some c, t)

/-- Reads a text up to its closing quote.  The second argument bounds the number of characters. -/
def readTextFrom (fromQuote : Text) : Nat → Text → Reading Text
  | 0, _ => .error (.misfit .unterminatedText fromQuote)
  | steps + 1, t =>
    match readSpelling fromQuote t with
    | .error e => .error e
    | .ok (none, rest) => .ok ([], rest)
    | .ok (some c, rest) =>
      match readTextFrom fromQuote steps rest with
      | .error e => .error e
      | .ok (s, rest) => .ok (c :: s, rest)

/-- Reads a text from the character after its opening quote on, within a number of steps. -/
def readText (steps : Nat) (t : Text) : Reading Text := readTextFrom ('"' :: t) steps t

/-! ## Numbers -/

/-- The digits before the point: a lone zero, or digits that do not start with zero. -/
def splitWhole? : Text → Option (Text × Text)
  | '0' :: t => some (['0'], t)
  | t =>
    match t.takeWhile Char.isDigit with
    | [] => none
    | ds => some (ds, t.dropWhile Char.isDigit)

/-- The digits after a point, if there is a point with a digit after it. -/
def splitFraction : Text → Text × Text
  | '.' :: t =>
    match t.takeWhile Char.isDigit with
    | [] => ([], '.' :: t)
    | ds => (ds, t.dropWhile Char.isDigit)
  | t => ([], t)

/-- The value of an exponent, if there is a mark with digits after it. -/
def splitExponent (t : Text) : Option Int × Text :=
  match t with
  | mark :: t' =>
    if mark = 'e' ∨ mark = 'E' then
      let (negative, t'') := match t' with
        | '-' :: r => (true, r)
        | '+' :: r => (false, r)
        | r => (false, r)
      match t''.takeWhile Char.isDigit with
      | [] => (none, t)
      | ds =>
        let n : Int := Numeral.value ds
        (some (if negative then -n else n), t''.dropWhile Char.isDigit)
    else (none, t)
  | [] => (none, t)

/-- Reads a number.  One with a fraction or an exponent is real, any other whole. -/
def readNumber (t : Text) : Reading Json :=
  let (negative, t') := match t with
    | '-' :: r => (true, r)
    | r => (false, r)
  match splitWhole? t' with
  | none => .error (.misfit .value t)
  | some (whole, afterWhole) =>
    let (fraction, afterFraction) := splitFraction afterWhole
    let (exponent, rest) := splitExponent afterFraction
    if fraction.isEmpty ∧ exponent.isNone then
      match Numeral.read whole with
      | .error f => .error (.numeral f)
      | .ok n => .ok (.int (if negative then -(n : Int) else n), rest)
    else
      let power : Int := exponent.getD 0 - fraction.length
      .ok (.real (Binary64.ofDecimal negative (Numeral.value (whole ++ fraction)) power), rest)

/-! ## Values -/

/-- The words that stand for a value. -/
def words : List (Text × Json) := [
  ("null".toList, .null), ("true".toList, .bool true), ("false".toList, .bool false),
  ("NaN".toList, .real .notNumber), ("Infinity".toList, .real (.infinite false)),
  ("-Infinity".toList, .real (.infinite true))]

/-- Reads one of the words. -/
def readWord? (t : Text) : Option (Json × Text) :=
  words.findSome? fun (word, v) => (Text.dropLead? word t).map fun rest => (v, rest)

mutual

/-- Reads a value.  The first argument bounds the number of steps. -/
def readValue : Nat → Text → Reading Json
  | 0, t => .error (.misfit .value t)
  | steps + 1, t =>
    match t with
    | '"' :: rest =>
      match readText steps rest with
      | .ok (s, rest) => .ok (.text s, rest)
      | .error e => .error e
    | '{' :: rest =>
      match skipSpace rest with
      | '}' :: rest => .ok (.object [], rest)
      | rest => readFields steps [] rest
    | '[' :: rest =>
      match skipSpace rest with
      | ']' :: rest => .ok (.list [], rest)
      | rest => readItems steps [] rest
    | _ =>
      match readWord? t with
      | some r => .ok r
      | none => readNumber t

/-- Reads the items of a list from an item to the closing bracket; `done` are the items before,
the last one first. -/
def readItems : Nat → List Json → Text → Reading Json
  | 0, _, t => .error (.misfit .value t)
  | steps + 1, done, t =>
    match readValue steps t with
    | .error e => .error e
    | .ok (v, rest) =>
      match skipSpace rest with
      | ']' :: rest => .ok (.list (v :: done).reverse, rest)
      | ',' :: rest => readItems steps (v :: done) (skipSpace rest)
      | rest => .error (.misfit .comma rest)

/-- Reads the fields of an object from a key to the closing brace; `done` are the fields before. -/
def readFields : Nat → List (Text × Json) → Text → Reading Json
  | 0, _, t => .error (.misfit .value t)
  | steps + 1, done, t =>
    match t with
    | '"' :: rest =>
      match readText steps rest with
      | .error e => .error e
      | .ok (key, rest) =>
        match skipSpace rest with
        | ':' :: rest =>
          match readValue steps (skipSpace rest) with
          | .error e => .error e
          | .ok (v, rest) =>
            match skipSpace rest with
            | '}' :: rest => .ok (.object (setField key v done), rest)
            | ',' :: rest => readFields steps (setField key v done) (skipSpace rest)
            | rest => .error (.misfit .comma rest)
        | rest => .error (.misfit .colon rest)
    | _ => .error (.misfit .propertyName t)

end

/-- Reads a whole text as one value. -/
def readAll (t : Text) : Except Stop Json :=
  -- Every step takes a character or hands on to a step that does.
  match readValue (2 * t.length + 2) (skipSpace t) with
  | .error e => .error e
  | .ok (v, rest) =>
    match skipSpace rest with
    | [] => .ok v
    | rest => .error (.misfit .extraData rest)

/-- The value of a JSON text. -/
def parse (t : Text) : Except Fault Json :=
  if t.head? = some '\uFEFF' then .error (.misfit (.locate .byteOrderMark t 0))
  else
    match readAll t with
    | .ok v => .ok v
    | .error (.misfit cause left) => .error (.misfit (.locate cause t (t.length - left.length)))
    | .error (.numeral f) => .error (.numeral f)

end Retrace.Json
