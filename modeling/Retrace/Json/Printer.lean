import Retrace.Json.Shown

/-!
# Writing JSON

A value is written on one line without spaces.  Every character from space to tilde stands for
itself, quotes and backslashes after a backslash; any other is written by its code, or by the two
codes of its pair.
-/

namespace Retrace.Json

/-- The escape of a code below `2 ^ 16`. -/
def codeEscape (n : Nat) : Text := '\\' :: 'u' :: Text.hexDigits 4 n

/-- A character inside the quotes. -/
def printedChar (c : Char) : Text :=
  if c = '"' ∨ c = '\\' then ['\\', c]
  else if 32 ≤ c.toNat ∧ c.toNat ≤ 126 then [c]
  else if c.toNat < 0x10000 then codeEscape c.toNat
  else
    let n := c.toNat - 0x10000
    codeEscape (0xD800 + n / 0x400) ++ codeEscape (0xDC00 + n % 0x400)

/-- A text between quotes. -/
def printedText (t : Text) : Text := '"' :: (t.flatMap printedChar ++ ['"'])

/-- A real number, with words for those that JSON has no numeral for. -/
def printedReal : Binary64 → Text
  | .notNumber => "NaN".toList
  | .infinite false => "Infinity".toList
  | .infinite true => "-Infinity".toList
  | r => realLayout.text r

mutual

/-- A value. -/
def print : Json → Text
  | .null => "null".toList
  | .bool true => "true".toList
  | .bool false => "false".toList
  | .int n => Numeral.signedDigits n
  | .real r => printedReal r
  | .text t => printedText t
  | .list items => '[' :: (Text.join [','] (printItems items) ++ [']'])
  | .object fields => '{' :: (Text.join [','] (printFields fields) ++ ['}'])

/-- The items of a list. -/
def printItems : List Json → List Text
  | [] => []
  | v :: items => print v :: printItems items

/-- The fields of an object. -/
def printFields : List (Text × Json) → List Text
  | [] => []
  | (k, v) :: fields => (printedText k ++ ':' :: print v) :: printFields fields

end

end Retrace.Json
