/-!
# Texts

A text is the list of its characters, so that lengths, cuts and comparisons count characters and
laws about texts are list inductions.  This module holds the operations on texts that know nothing
of traces or maps: looking for one text in another, cutting a text at a separator, and the lead
that several texts share.
-/

namespace Retrace

/-- A text, as the list of its characters. -/
abbrev Text := List Char

namespace Text

/-! ## One text inside another -/

/-- What follows `lead` in a text that starts with it. -/
def dropLead? : Text → Text → Option Text
  | [], t => some t
  | _ :: _, [] => none
  | a :: lead, c :: t => if a = c then dropLead? lead t else none

/-- Whether a text starts with `lead`. -/
def startsWith (lead t : Text) : Bool := (dropLead? lead t).isSome

/-- The place of the first occurrence of `needle` in a text. -/
def firstIndex? (needle : Text) : Text → Option Nat
  | [] => if needle.isEmpty then some 0 else none
  | c :: t =>
    if startsWith needle (c :: t) then some 0 else (firstIndex? needle t).map (· + 1)

/-- Whether `needle` occurs in a text.  The empty text occurs in every text. -/
def occursIn (needle t : Text) : Bool := (firstIndex? needle t).isSome

/-! ## Cutting at a separator -/

/-- Puts a character in front of the first piece. -/
def consPiece (c : Char) : List Text → List Text
  | [] => [[c]]
  | p :: ps => (c :: p) :: ps

/-- Pieces between the occurrences of a non-empty separator, where `skip` characters of a
separator already met are still to be passed over. -/
def piecesAfter (sep : Text) : Nat → Text → List Text
  | _, [] => [[]]
  | skip + 1, _ :: t => piecesAfter sep skip t
  | 0, c :: t =>
    if startsWith sep (c :: t) then [] :: piecesAfter sep (sep.length - 1) t
    else consPiece c (piecesAfter sep 0 t)

/-- The pieces of a text between the leftmost occurrences of a non-empty separator that do not
overlap.  There is always at least one piece. -/
def splitOn (sep t : Text) : List Text := piecesAfter sep 0 t

/-- Cuts a text at the last occurrence of a non-empty separator. -/
def splitLast? (sep : Text) : Text → Option (Text × Text)
  | [] => none
  | c :: t =>
    match splitLast? sep t with
    | some (before, after) => some (c :: before, after)
    | none => (dropLead? sep (c :: t)).map ([], ·)

/-- The texts one after the other, with `sep` between neighbours. -/
def join (sep : Text) (ts : List Text) : Text := List.intercalate sep ts

/-! ## Shared leads -/

/-- The longest text that both texts start with. -/
def commonLead : Text → Text → Text
  | a :: s, b :: t => if a = b then a :: commonLead s t else []
  | _, _ => []

/-- The longest text that every text of a list starts with. -/
def sharedLead : List Text → Text
  | [] => []
  | t :: ts => ts.foldl commonLead t

/-- The longest lead of a text in which the non-empty text `marker` does not occur: it ends one
character short of the end of the first occurrence. -/
def leadClearOf (marker t : Text) : Text :=
  match firstIndex? marker t with
  | none => t
  | some i => t.take (i + marker.length - 1)

/-! ## Line ends -/

/-- A text with each pair of carriage return and line feed, and each lone carriage return,
replaced by a line feed. -/
def unifyLineEnds : Text → Text
  | [] => []
  | '\r' :: '\n' :: t => '\n' :: unifyLineEnds t
  | '\r' :: t => '\n' :: unifyLineEnds t
  | c :: t => c :: unifyLineEnds t

/-- A text without its last character if that is a line feed. -/
def dropFinalLineEnd (t : Text) : Text :=
  if t.getLast? = some '\n' then t.dropLast else t

/-- The part of a text after its first line feed. -/
def afterFirstLine? : Text → Option Text
  | [] => none
  | c :: t => if c = '\n' then some t else afterFirstLine? t

end Text

end Retrace
