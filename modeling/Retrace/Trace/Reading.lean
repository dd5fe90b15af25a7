import Retrace.SourceMap.Basic
import Retrace.Trace.Entry
import Retrace.Trace.FrameLine
import Retrace.Trace.Fault

/-!
# Reading a trace

The lines of a trace are read from first to last.  The first line may be a message, which stands
for itself; every other line must be a frame, until an empty line ends the trace.  Frames are
resolved in a source map as they are met.
-/

namespace Retrace.Trace

/-- Where the reading of a trace stands. -/
inductive State
  /-- Before the first line. -/
  | awaiting
  /-- Among the frames. -/
  | inFrames
  /-- After the empty line that ends the trace. -/
  | done
deriving DecidableEq, Repr

/-- The entry of a frame line. -/
def frameEntry (m : SourceMap) (f : FrameLine) (raw : Text) : Entry :=
  match m.resolve f.line f.column with
  | none => .frame { source := none, line := none, column := none, name := none, raw }
  | some p =>
    .frame { source := some p.source, line := some p.line, column := some p.column
             name := p.name, raw }

/-- Reads a line that has `index` lines before it: the state after it, and the entry it makes.  A
frame line leads among the frames from every state. -/
def step (m : SourceMap) (state : State) (index : Nat) (line : Text) :
    Except Fault (State × Option Entry) :=
  match FrameLine.read? line with
  | .error f => .error (.numeral f)
  | .ok (some f) => .ok (.inFrames, some (frameEntry m f line))
  | .ok none =>
    match state with
    | .awaiting => .ok (.inFrames, some (.verbatim line))
    | .inFrames | .done =>
      if line.isEmpty then .ok (.done, none) else .error (.strayLine (index + 1) line)

/-- Reads the lines from `index` on, up to the end of the trace. -/
def entriesFrom (m : SourceMap) : State → Nat → List Text → Except Fault (List Entry)
  | _, _, [] => .ok []
  | state, index, line :: lines =>
    match step m state index line with
    | .error e => .error e
    | .ok (.done, added) => .ok added.toList
    | .ok (state, added) => do
      let entries ← entriesFrom m state (index + 1) lines
      pure (added.toList ++ entries)

/-- The entries of a trace. -/
def entries (m : SourceMap) (lines : List Text) : Except Fault (List Entry) :=
  entriesFrom m .awaiting 0 lines

end Retrace.Trace
