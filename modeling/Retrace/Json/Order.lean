import Retrace.Json.Basic

/-!
# Likeness and order of values

Two values are alike if they are the same, where a number counts for what it is worth, whether it
is written whole or real, and the truth values count as one and zero.  The order is that of
numbers, of texts by code points and of lists item by item; values of different kinds have no
order, and neither have nulls nor objects.
-/

namespace Retrace.Json

/-- A value that is a text. -/
def asText? : Json → Option Text
  | .text t => some t
  | _ => none

/-- A value that is a list. -/
def asList? : Json → Option (List Json)
  | .list items => some items
  | _ => none

/-! ## Numbers -/

/-- What a number is worth: a finite binary number exactly, or nothing finite. -/
inductive Worth
  /-- The number `numerator / 2 ^ halvings`. -/
  | finite (numerator : Int) (halvings : Nat)
  | infinite (negative : Bool)
  | notNumber

/-- The worth of a number or truth value. -/
def worth? : Json → Option Worth
  | .bool b => some (.finite (if b then 1 else 0) 0)
  | .int n => some (.finite n 0)
  | .real .notNumber => some .notNumber
  | .real (.infinite negative) => some (.infinite negative)
  | .real (.finite negative m e) =>
    let size : Int := (m * Nat.pow 2 e.toNat : Nat)
    some (.finite (if negative then -size else size) (-e).toNat)
  | _ => none

/-- Whether two worths are equal. -/
def Worth.same : Worth → Worth → Bool
  | .finite a j, .finite b k => a * Nat.pow 2 k = b * Nat.pow 2 j
  | .infinite a, .infinite b => a == b
  | .notNumber, .notNumber => true
  | _, _ => false

/-- Whether a worth is below another. -/
def Worth.below : Worth → Worth → Bool
  | .finite a j, .finite b k => a * Nat.pow 2 k < b * Nat.pow 2 j
  | .finite _ _, .infinite negative => !negative
  | .infinite negative, .finite _ _ => negative
  | .infinite a, .infinite b => a && !b
  | _, _ => false

/-! ## Likeness -/

mutual

/-- Whether two values are alike. -/
def alike : Json → Json → Bool
  | .null, .null => true
  | .text s, .text t => s == t
  | .list xs, .list ys => alikeItems xs ys
  | .object fs, .object gs => fs.length == gs.length && alikeFields fs gs
  | v, w =>
    match worth? v, worth? w with
    | some a, some b => a.same b
    | _, _ => false

/-- Whether two lists are alike item by item. -/
def alikeItems : List Json → List Json → Bool
  | [], [] => true
  | x :: xs, y :: ys => alike x y && alikeItems xs ys
  | _, _ => false

/-- Whether each of some fields has a like in an object. -/
def alikeFields : List (Text × Json) → List (Text × Json) → Bool
  | [], _ => true
  | (k, v) :: fs, gs =>
    (match field? k gs with
      | some w => alike v w
      | none => false) && alikeFields fs gs

end

/-- The items that two lists share at their start, up to the first that is no number. -/
def commonItems : List Json → List Json → List Json
  | .real .notNumber :: _, _ => []
  | x :: xs, y :: ys => if alike x y then x :: commonItems xs ys else []
  | _, _ => []

/-! ## Order -/

/-- Whether a text comes before another, by code points. -/
def textBelow : Text → Text → Bool
  | [], [] => false
  | [], _ :: _ => true
  | _ :: _, [] => false
  | a :: s, b :: t => if a = b then textBelow s t else a.toNat < b.toNat

mutual

/-- Whether a value comes before another; `none` if they have no order. -/
def below? : Json → Json → Option Bool
  | .text s, .text t => some (textBelow s t)
  | .list xs, .list ys => listBelow? xs ys
  | v, w =>
    match worth? v, worth? w with
    | some a, some b => some (a.below b)
    | _, _ => none

/-- Whether a list comes before another: at the first place where they differ, or by length. -/
def listBelow? : List Json → List Json → Option Bool
  | [], [] => some false
  | [], _ :: _ => some true
  | _ :: _, [] => some false
  | x :: xs, y :: ys => if alike x y then listBelow? xs ys else below? x y

end

/-- The first of the least lists among some. -/
def leastList? (first : List Json) (rest : List (List Json)) : Option (List Json) :=
  rest.foldlM (fun least xs => (listBelow? xs least).map fun b => if b then xs else least) first

/-- The first of the greatest lists among some. -/
def greatestList? (first : List Json) (rest : List (List Json)) : Option (List Json) :=
  rest.foldlM (fun most xs => (listBelow? most xs).map fun b => if b then xs else most) first

end Retrace.Json
