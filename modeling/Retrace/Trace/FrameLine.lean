import Retrace.Numeral

/-!
# Frame lines

Engines print a frame of a stack trace in one of three shapes: a symbol at a position
(`name@1:2`), a file position (`at file:1:2`), and a symbol with its file position
(`at name (file:1:2)`).  A `Shape` finds the parts of a line as they are written; `FrameLine.read?`
takes the first shape that fits and reads the numbers.

One line feed at the end of a line does not count, and a line with any other line feed is no frame.
-/

namespace Retrace

/-- The parts of a frame line as they are written.  The name may be empty. -/
structure FrameParts where
  name : Text
  file : Option Text
  line : Text
  column : Text
deriving DecidableEq, Repr

namespace FrameParts

/-- Cuts a text before the ASCII digits at its end, of which there must be some. -/
def splitDigits? (t : Text) : Option (Text × Text) :=
  let digits := (t.reverse.takeWhile Char.isDigit).reverse
  if digits.isEmpty then none else some ((t.reverse.dropWhile Char.isDigit).reverse, digits)

/-- A text without its last character, which must be `c`. -/
def dropEnd? (c : Char) (t : Text) : Option Text :=
  if t.getLast? = some c then some t.dropLast else none

/-- Cuts a text before the position `line:column` at its end. -/
def splitPosition? (t : Text) : Option (Text × Text × Text) := do
  let (t, column) ← splitDigits? t
  let t ← dropEnd? ':' t
  let (t, line) ← splitDigits? t
  pure (t, line, column)

end FrameParts

/-- The shapes in which engines print a frame. -/
inductive Shape
  /-- A symbol at a position: `name@line:column`. -/
  | symbolAt
  /-- A position in a file: `at file:line:column`. -/
  | fileAt
  /-- A symbol at a position in a file: `at name (file:line:column)`. -/
  | symbolInFile
deriving DecidableEq, Repr

namespace Shape

/-- The word that opens the shapes with a file. -/
def opening : Text := "at ".toList

open FrameParts in
/-- The parts of a line that has the shape.  Where a line with a symbol and a file could be cut in
several ways, the symbol is as long as possible. -/
def parts? : Shape → Text → Option FrameParts
  | .symbolAt, t => do
    let (t, line, column) ← splitPosition? t
    let name ← dropEnd? '@' t
    pure { name, file := none, line, column }
  | .fileAt, t => do
    let (t, line, column) ← splitPosition? t
    let t ← Text.dropLead? opening t
    let file ← dropEnd? ':' t
    pure { name := [], file := some file, line, column }
  | .symbolInFile, t => do
    let t ← dropEnd? ')' t
    let (t, line, column) ← splitPosition? t
    let t ← Text.dropLead? opening t
    let t ← dropEnd? ':' t
    let (name, file) ← Text.splitLast? " (".toList t
    pure { name, file := some file, line, column }

/-- All shapes, in the order in which they are tried. -/
def all : List Shape := [.symbolAt, .fileAt, .symbolInFile]

end Shape

/-- A frame of a stack trace, in positions of the generated code. -/
structure FrameLine where
  name : Option Text
  line : Nat
  column : Nat
  /-- The generated file, if the line names one. -/
  file : Option Text
deriving DecidableEq, Repr

namespace FrameLine

/-- The part of a line in which a shape is looked for. -/
def body? (t : Text) : Option Text :=
  let body := Text.dropFinalLineEnd t
  if '\n' ∈ body then none else some body

/-- The parts of a line under the first of some shapes that fits. -/
def partsUnder? (shapes : List Shape) (t : Text) : Option FrameParts := do
  let body ← body? t
  shapes.findSome? (·.parts? body)

/-- Reads the numbers, the line before the column.  An empty name is no name. -/
def ofParts (p : FrameParts) : Except Numeral.Fault FrameLine := do
  let line ← Numeral.read p.line
  let column ← Numeral.read p.column
  pure { name := if p.name.isEmpty then none else some p.name, line, column, file := p.file }

/-- Reads a line as a frame, trying some shapes in order. -/
def readUnder? (shapes : List Shape) (t : Text) : Except Numeral.Fault (Option FrameLine) :=
  match partsUnder? shapes t with
  | none => .ok none
  | some p => (ofParts p).map some

/-- Reads a line as a frame; `none` is a line that is no frame. -/
def read? (t : Text) : Except Numeral.Fault (Option FrameLine) := readUnder? Shape.all t

end FrameLine

end Retrace
