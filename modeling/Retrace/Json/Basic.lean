import Retrace.Number.Binary64
import Retrace.Text.Basic

/-!
# JSON values

The values of JSON, with whole numbers of any size and the three binary64 values that have no
JSON number.  The fields of an object stand in the order in which their keys first came up, and a
key stands for one value only: setting it again replaces the value in its place.
-/

namespace Retrace

/-- A JSON value. -/
inductive Json
  | null
  | bool (b : Bool)
  | int (n : Int)
  | real (r : Binary64)
  | text (t : Text)
  | list (items : List Json)
  | object (fields : List (Text × Json))
deriving Inhabited, Repr, BEq

namespace Json

/-- Looks up a key among fields. -/
def field? {α : Type} (key : Text) : List (Text × α) → Option α
  | [] => none
  | (k, v) :: fields => if k = key then some v else field? key fields

/-- Sets a key: in its place if it is there, else at the end. -/
def setField {α : Type} (key : Text) (v : α) : List (Text × α) → List (Text × α)
  | [] => [(key, v)]
  | (k, w) :: fields => if k = key then (k, v) :: fields else (k, w) :: setField key v fields

/-- Whether a value is null. -/
def isNull : Json → Bool
  | .null => true
  | _ => false

/-- Whether a value counts as something: not null, false, zero, or empty. -/
def isSomething : Json → Bool
  | .null => false
  | .bool b => b
  | .int n => n ≠ 0
  | .real r => !r.isWhole 0
  | .text t => !t.isEmpty
  | .list items => !items.isEmpty
  | .object fields => !fields.isEmpty

end Json

end Retrace
