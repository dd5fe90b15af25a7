import Retrace.SourceMap.Fault
import Retrace.SourceMap.Table
import Retrace.SourceMap.Vlq

/-!
# Mappings

The mappings of a map are one text: lines between semicolons, segments between commas, and in each
segment one, four or five numbers, each relative to the last one of its kind.  The generated
column starts anew on every line, the others run through the whole text.
-/

namespace Retrace.SourceMap

/-- The sources of a map. -/
inductive Sources
  | items (sources : List Json)
  /-- Sources under keys, of which only the number can be asked. -/
  | keyed (count : Nat)
  /-- A value that has no sources in it. -/
  | uncountable
deriving Repr

/-- A fault that names some numbers, unless one of them is too long to be written. -/
def naming (numbers : List Int) (f : Fault) : Fault :=
  if numbers.any fun n => (Numeral.digits n.natAbs).length > Numeral.digitLimit then
    .numeral .tooLongToWrite
  else f

/-- The item of a number, which may be out of range. -/
def item? {α : Type} (items : List α) (id : Int) : Option α :=
  if id < 0 then none else items[id.toNat]?

/-- The source of a number. -/
def Sources.get (sources : Sources) (segment : Text) (id : Int) : Except Fault Json :=
  match sources with
  | .uncountable => .error .wrongKind
  | .keyed count =>
    if 0 ≤ id ∧ id < count then .error (.keyedSource id)
    else .error (naming [id] (.sourceOutOfRange segment id count))
  | .items sources =>
    match item? sources id with
    | some source => .ok source
    | none => .error (naming [id] (.sourceOutOfRange segment id sources.length))

/-- The name of a number. -/
def nameOf (names : List Text) (segment : Text) (id : Int) : Except Fault Text :=
  match item? names id with
  | some name => .ok name
  | none => .error (naming [id] (.nameOutOfRange segment id names.length))

/-- What the numbers of the next segment are relative to. -/
structure Running where
  column : Int := 0
  sourceId : Int := 0
  sourceLine : Int := 0
  sourceColumn : Int := 0
  nameId : Int := 0
deriving DecidableEq, Repr

/-- The numbers of a segment. -/
def segmentFields (segment : Text) : Except Fault (List Int) :=
  match Vlq.read segment with
  | .ok fields => .ok fields
  | .error .character => .error .character
  | .error .unfinished => .error .unfinishedNumber

/-- The source and the name that a segment sets, if it has fields for them. -/
structure Reference where
  source : Option Json := none
  name : Option Text := none

/-- Adds the fields of a segment to what is running. -/
def advance (sources : Sources) (names : List Text) (segment : Text) (r : Running)
    (fields : List Int) : Except Fault (Running × Reference) :=
  match fields with
  | [] => .ok (r, {})
  | [c] => .ok ({ r with column := r.column + c }, {})
  | c :: s :: more => do
    let id := r.sourceId + s
    let source ← sources.get segment id
    match more with
    | line :: column :: more =>
      let r := { r with
        column := r.column + c, sourceId := id
        sourceLine := r.sourceLine + line, sourceColumn := r.sourceColumn + column }
      match more with
      | [] => pure (r, { source := some source })
      | n :: _ =>
        let name ← nameOf names segment (r.nameId + n)
        pure ({ r with nameId := r.nameId + n }, { source := some source, name := some name })
    | _ => .error (naming fields (.shortSegment segment fields))

/-- The token at the position that is running, which must not be negative. -/
def tokenOf (r : Running) (ref : Reference) : Except Fault Token :=
  if r.column < 0 ∨ r.sourceLine < 0 ∨ r.sourceColumn < 0 then .error .negative
  else
    .ok {
      column := r.column.toNat
      origin := ref.source.map fun source =>
        { source, line := r.sourceLine.toNat, column := r.sourceColumn.toNat, name := ref.name } }

/-- Decodes a segment. -/
def decodeSegment (sources : Sources) (names : List Text) (r : Running) (segment : Text) :
    Except Fault (Running × Token) := do
  let fields ← segmentFields segment
  let (r, ref) ← advance sources names segment r fields
  let token ← tokenOf r ref
  pure (r, token)

/-- Decodes the segments of a line.  Empty ones are passed over. -/
def decodeSegments (sources : Sources) (names : List Text) :
    Running → List Text → Except Fault (Running × List Token)
  | r, [] => .ok (r, [])
  | r, segment :: segments =>
    if segment.isEmpty then decodeSegments sources names r segments
    else do
      let (r, token) ← decodeSegment sources names r segment
      let (r, tokens) ← decodeSegments sources names r segments
      pure (r, token :: tokens)

/-- Decodes lines. -/
def decodeLines (sources : Sources) (names : List Text) :
    Running → List Text → Except Fault Table
  | _, [] => .ok []
  | r, line :: lines => do
    let (r, tokens) ← decodeSegments sources names { r with column := 0 } (Text.splitOn [','] line)
    let table ← decodeLines sources names r lines
    pure (tokens :: table)

/-- Decodes mappings. -/
def decodeMappings (sources : Sources) (names : List Text) (mappings : Text) :
    Except Fault Table :=
  decodeLines sources names {} (Text.splitOn [';'] mappings)

end Retrace.SourceMap
