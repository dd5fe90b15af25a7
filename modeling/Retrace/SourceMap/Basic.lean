import Retrace.SourceMap.Indexed

/-!
# Source maps

A source map says where positions of generated code come from.  `SourceMap.load` reads one from
its text, and `SourceMap.resolve` answers for positions with lines counted from one and columns
from zero.
-/

namespace Retrace

/-- A source map: a regular one, or an index map with its sections in order. -/
inductive SourceMap
  | regular (table : SourceMap.Table)
  | indexed (sections : List SourceMap.Section)
deriving Repr, BEq

namespace SourceMap

/-- Why a map is not loaded. -/
inductive LoadFault
  /-- The text is refused; the path is that of the file it came from, if any. -/
  | rejected (f : Fault) (path : Option Text)
  /-- The offset of a section is infinite. -/
  | overflow
deriving DecidableEq, Repr

/-- Reads a source map. -/
def read (t : Text) : Except SectionFault SourceMap :=
  match sectionsOf? t with
  | some sections => (readSections sections).map .indexed
  | none => ((readRegular t).mapError .fault).map .regular

/-- Reads a source map that came from a path. -/
def load (path : Option Text) (t : Text) : Except LoadFault SourceMap :=
  (read t).mapError fun
    | .fault f => .rejected f path
    | .overflow => .overflow

/-- The token that covers a generated position, both counted from zero. -/
def lookup? (m : SourceMap) (line column : Nat) : Option Token :=
  match m with
  | .regular table => table.lookup? line column
  | .indexed sections =>
    (sectionAt? sections line column).bind fun s => s.lookup? line column

/-- Whether the lines and columns of a query can be those of generated code. -/
def isPosition (line column : Int) : Bool := 1 ≤ line && 0 ≤ column

/-- The token for a generated position with its line counted from one. -/
def token? (m : SourceMap) (line column : Int) : Option Token :=
  if isPosition line column then m.lookup? (line - 1).toNat column.toNat else none

/-- Whether a position is one of generated code that no token covers. -/
def uncovered (m : SourceMap) (line column : Int) : Bool :=
  isPosition line column && (m.token? line column).isNone

/-- A position in the sources, its line counted from one.  The source is not null and
the name not empty. -/
structure Position where
  source : Json
  line : Int
  column : Int
  name : Option Text
deriving Repr, BEq

/-- The position that an origin stands for. -/
def Origin.position? (o : Origin) : Option Position :=
  match o.source with
  | .null => none
  | source =>
    some { source, line := o.line + 1, column := o.column, name := o.name.filter (!·.isEmpty) }

/-- The position in the sources of a generated one; `none` is an unmapped position. -/
def resolve (m : SourceMap) (line column : Int) : Option Position :=
  (m.token? line column).bind fun token => token.origin.bind Origin.position?

end SourceMap

end Retrace
