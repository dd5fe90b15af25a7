import Retrace.Trace.Block
import Retrace.Trace.Layout
import Retrace.Trace.Reading

/-!
# Symbolication

A report is symbolicated by selecting the block of its trace, reading the lines of the block, and
printing the entries.  `Symbolication.notes` tells what happened on the way.
-/

namespace Retrace.Trace

/-- What is to be done with a report. -/
structure Symbolication where
  marker : Text := defaultMarker
  separator : Text := defaultSeparator
  layout : Layout := {}
deriving Repr

namespace Symbolication

/-- The lines of a block. -/
def blockLines (text : Text) : List Text := Text.splitOn ['\n'] text

/-- The symbolicated trace of a report. -/
def run (s : Symbolication) (m : SourceMap) (report : Text) : Except Fault Text := do
  let block ← selectBlock s.marker s.separator report
  let entries ← entries m (blockLines block.text)
  s.layout.print entries

end Symbolication

/-! ## What happened on the way -/

/-- Something that happens while a report is symbolicated. -/
inductive Note
  | blockSelected (index count : Nat)
  /-- No token covers the position of a frame. -/
  | positionUnmapped (line column : Nat) (name : Option Text)
  | strayLine (number : Nat) (line : Text)
  /-- An empty line ended the trace, with so many lines after it. -/
  | traceEnded (number skipped : Nat)
  | traceRead (entries : Nat)
  | stemFound (stem : Text) (sources : Nat)
  | symbolicated (entries : Nat) (shorten : Bool)
deriving DecidableEq, Repr

/-- What happens while the frame of a line is resolved. -/
def lineNotes (m : SourceMap) (line : Text) : List Note :=
  match FrameLine.read? line with
  | .ok (some f) =>
    if m.uncovered f.line f.column then [.positionUnmapped f.line f.column f.name] else []
  | _ => []

/-- What happens while the lines from `index` on are read, after `count` entries. -/
def notesFrom (m : SourceMap) : State → Nat → Nat → List Text → List Note
  | _, _, count, [] => [.traceRead count]
  | state, index, count, line :: lines =>
    lineNotes m line ++
      match step m state index line with
      | .error (.strayLine number line) => [.strayLine number line]
      | .error _ => []
      | .ok (.done, added) =>
        [.traceEnded (index + 1) lines.length, .traceRead (count + added.toList.length)]
      | .ok (state, added) =>
        notesFrom m state (index + 1) (count + added.toList.length) lines

/-- What happens while a trace is printed. -/
def Layout.notes (l : Layout) (entries : List Entry) : List Note :=
  match l.stem entries with
  | .error _ | .ok [] => []
  | .ok stem => [.stemFound stem (Entry.sources entries).length]

/-- What happens while a report is symbolicated. -/
def Symbolication.notes (s : Symbolication) (m : SourceMap) (report : Text) : List Note :=
  match selectBlock s.marker s.separator report with
  | .error _ => []
  | .ok block =>
    let lines := blockLines block.text
    .blockSelected block.index block.count :: (notesFrom m .awaiting 0 0 lines ++
      match entries m lines with
      | .error _ => []
      | .ok entries => s.layout.notes entries ++
        match s.layout.print entries with
        | .error _ => []
        | .ok _ => [.symbolicated entries.length s.layout.shorten])

end Retrace.Trace
