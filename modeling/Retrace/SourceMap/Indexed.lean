import Retrace.Numeral.Lenient
import Retrace.SourceMap.Regular

/-!
# Index maps

An index map is made of sections, each with the generated position where it starts and a regular
map of its own.  A position belongs to the last section that starts at or before it, and is looked
up there relative to the start of the section: its line always, its column only on the first line
of the section.
-/

namespace Retrace.SourceMap

/-- A section of an index map. -/
structure Section where
  line : Int
  column : Int
  table : Table
deriving Repr, BEq

namespace Section

/-- Whether a section starts at or before a position. -/
def startsBy (s : Section) (line column : Int) : Bool :=
  s.line < line || (s.line = line && s.column ≤ column)

/-- Sections in the order of their starts; those of one start keep their order. -/
def sort (sections : List Section) : List Section :=
  sections.mergeSort fun s u => s.startsBy u.line u.column

/-- The token of a section that covers a position at or after its start. -/
def lookup? (s : Section) (line column : Int) : Option Token :=
  let column := if line = s.line then column - s.column else column
  s.table.lookup? (line - s.line).toNat column.toNat

end Section

/-- The last of some sorted sections that starts at or before a position. -/
def sectionAt? (sections : List Section) (line column : Int) : Option Section :=
  (sections.takeWhile (·.startsBy line column)).getLast?

/-! ## Reading -/

/-- Why an index map cannot be read. -/
inductive SectionFault
  | fault (f : Fault)
  /-- An offset is infinite. -/
  | overflow
deriving DecidableEq, Repr

/-- The whole number that an offset stands for. -/
def wholeNumber : Json → Except SectionFault Int
  | .int n => .ok n
  | .bool b => .ok (if b then 1 else 0)
  | .real (.finite negative m e) => .ok (Binary64.truncate negative m e)
  | .real (.infinite _) => .error .overflow
  | .real .notNumber => .error (.fault .notNumber)
  | .text t =>
    match Numeral.readLenient t with
    | .ok n => .ok n
    | .error .noNumeral => .error (.fault (.noNumeral t))
    | .error (.numeral f) => .error (.fault (.numeral f))
  | .null | .list _ | .object _ => .error (.fault .wrongKind)

/-- The field of an object inside an index map. -/
def sectionField (key : Text) (v : Json) : Except SectionFault Json :=
  (field key v).mapError .fault

/-- Reads a section. -/
def readSection (v : Json) : Except SectionFault Section := do
  let offset ← sectionField "offset".toList v
  let line ← wholeNumber (← sectionField "line".toList offset)
  let column ← wholeNumber (← sectionField "column".toList offset)
  let table ← (decodeRegular (← sectionField "map".toList v)).mapError .fault
  pure { line, column, table }

/-- Reads the sections of an index map. -/
def readSections (sections : Json) : Except SectionFault (List Section) :=
  match members? sections with
  | some sections => (sections.mapM readSection).map Section.sort
  | none => .error (.fault .wrongKind)

/-- The sections of a text, if it is that of an index map.  A text that is no JSON document by
itself is not. -/
def sectionsOf? (t : Text) : Option Json :=
  match Json.parse t with
  | .ok (.object fields) =>
    match Json.field? "sections".toList fields with
    | some .null => none
    | sections => sections
  | _ => none

end Retrace.SourceMap
