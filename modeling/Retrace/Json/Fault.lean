import Retrace.Numeral

/-!
# Why a text is not JSON

A fault names its cause and the place where it was met.  Places count characters from zero, lines
and columns from one.
-/

namespace Retrace.Json

/-- What was wrong at some place of a text. -/
inductive Cause
  | value
  | propertyName
  | colon
  | comma
  | unterminatedText
  | controlCharacter
  | escape
  | codeEscape
  | extraData
  | byteOrderMark
deriving DecidableEq, Repr

/-- The wording of a cause. -/
def Cause.message : Cause → Text
  | .value => "Expecting value".toList
  | .propertyName => "Expecting property name enclosed in double quotes".toList
  | .colon => "Expecting ':' delimiter".toList
  | .comma => "Expecting ',' delimiter".toList
  | .unterminatedText => "Unterminated string starting at".toList
  | .controlCharacter => "Invalid control character at".toList
  | .escape => "Invalid \\escape".toList
  | .codeEscape => "Invalid \\uXXXX escape".toList
  | .extraData => "Extra data".toList
  | .byteOrderMark => "Unexpected UTF-8 BOM (decode using utf-8-sig)".toList

/-- A cause and its place. -/
structure Misfit where
  cause : Cause
  offset : Nat
  line : Nat
  column : Nat
deriving DecidableEq, Repr

/-- The place `offset` of a text, with the line and the column it is in. -/
def Misfit.locate (cause : Cause) (t : Text) (offset : Nat) : Misfit :=
  let before := t.take offset
  { cause, offset
    line := before.count '\n' + 1
    column := (before.reverse.takeWhile (· ≠ '\n')).length + 1 }

/-- The wording of a misfit. -/
def Misfit.message (m : Misfit) : Text :=
  m.cause.message ++ ": line ".toList ++ Numeral.digits m.line
    ++ " column ".toList ++ Numeral.digits m.column
    ++ " (char ".toList ++ Numeral.digits m.offset ++ [')']

/-- Why a text has no value. -/
inductive Fault
  | misfit (m : Misfit)
  | numeral (f : Numeral.Fault)
deriving DecidableEq, Repr

end Retrace.Json
