import Retrace.Json.Basic
import Retrace.Number.Shortest
import Retrace.Text.Quoted

/-!
# Values shown as text

A name or a source of a map may be any JSON value.  `Json.shown` is the text under which such a
value stands in a trace: a text as it is, everything else by its parts, with the texts inside
quoted.  A value has no text if one of its whole numbers has too many digits (`Json.longNumber?`).
-/

namespace Retrace.Json

mutual

/-- The number of digits of the first whole number in a value that has too many to be read or
written. -/
def longNumber? : Json → Option Nat
  | .int n =>
    let count := (Numeral.digits n.natAbs).length
    if Numeral.digitLimit < count then some count else none
  | .list items => longItem? items
  | .object fields => longField? fields
  | _ => none

/-- The same of the items of a list. -/
def longItem? : List Json → Option Nat
  | [] => none
  | v :: items => (longNumber? v).or (longItem? items)

/-- The same of the fields of an object. -/
def longField? : List (Text × Json) → Option Nat
  | [] => none
  | (_, v) :: fields => (longNumber? v).or (longField? fields)

end

/-- Reals have no exponent from `0.0001` up to sixteen places before the point, keep a `.0` when
whole, and write an exponent with its sign and two digits at least. -/
def realLayout : DecimalLayout where
  positionalUpTo := 16
  positionalFrom := -3
  mark := 'e'
  exponentDigits := 2
  infinity := "inf".toList
  notNumber := "nan".toList

mutual

/-- A value as part of another one. -/
def inner : Json → Text
  | .null => "None".toList
  | .bool true => "True".toList
  | .bool false => "False".toList
  | .int n => Numeral.signedDigits n
  | .real r => realLayout.text r
  | .text t => Text.quoted t
  | .list items => '[' :: (Text.join ", ".toList (innerItems items) ++ [']'])
  | .object fields => '{' :: (Text.join ", ".toList (innerFields fields) ++ ['}'])

/-- The items of a list, each as part of it. -/
def innerItems : List Json → List Text
  | [] => []
  | v :: items => inner v :: innerItems items

/-- The fields of an object, each as part of it. -/
def innerFields : List (Text × Json) → List Text
  | [] => []
  | (k, v) :: fields => (Text.quoted k ++ ": ".toList ++ inner v) :: innerFields fields

end

/-- A value as text of its own. -/
def shown : Json → Text
  | .text t => t
  | v => inner v

end Retrace.Json
