import Retrace.Json.Basic

/-!
# Tokens and look-up

A decoded map is a table of lines, each a list of tokens in the order in which they were written.
A token covers the generated code from its column on.  The columns of a line need not be sorted,
and look-up halves them all the same: it answers an exact hit first, and otherwise the column that
the halving ends at.  Of several tokens at one column the last one counts.
-/

namespace Retrace.SourceMap

/-- A position in the sources, its line counted from zero.  The source is whatever value
the map lists. -/
structure Origin where
  source : Json
  line : Nat
  column : Nat
  name : Option Text
deriving Repr, BEq

/-- A token: a generated column and, unless it stands for generated code only, its origin. -/
structure Token where
  column : Nat
  origin : Option Origin
deriving Repr, BEq

/-- The lines of a decoded map. -/
abbrev Table := List (List Token)

/-- The number of leading columns that a search by halving takes to be at most `column`.  The
first argument bounds the number of halvings. -/
def halve (column : Nat) : Nat → List Nat → Nat
  | 0, _ => 0
  | steps + 1, columns =>
    let middle := columns.length / 2
    match columns.drop middle with
    | [] => 0
    | c :: after =>
      if column < c then halve column steps (columns.take middle)
      else middle + 1 + halve column steps after

/-- The last token of a line that stands exactly at a column. -/
def tokenAt? (tokens : List Token) (column : Nat) : Option Token :=
  tokens.reverse.find? (·.column = column)

/-- The token of a line that covers a column. -/
def tokenCovering? (tokens : List Token) (column : Nat) : Option Token :=
  match tokenAt? tokens column with
  | some token => some token
  | none =>
    let columns := tokens.map (·.column)
    match halve column columns.length columns with
    | 0 => none
    | count + 1 => columns[count]?.bind (tokenAt? tokens)

/-- The token that covers a generated position, both counted from zero. -/
def Table.lookup? (table : Table) (line column : Nat) : Option Token :=
  table[line]?.bind fun tokens => tokenCovering? tokens column

end Retrace.SourceMap
