import Retrace.Trace.Fault

/-!
# The block of a report that holds the trace

A crash report has several blocks with a separator between them.  The trace is the first block
that contains the marker.
-/

namespace Retrace.Trace

/-- The text that marks the block of the trace unless another is set. -/
def defaultMarker : Text := "JavascriptException".toList

/-- The text between blocks unless another is set: an empty line. -/
def defaultSeparator : Text := "\n\n".toList

/-- A block of a report. -/
structure Block where
  text : Text
  /-- The number of blocks before it. -/
  index : Nat
  /-- The number of blocks of the report. -/
  count : Nat
deriving DecidableEq, Repr

/-- The blocks of a report. -/
def blocks (separator report : Text) : List Text := Text.splitOn separator report

/-- The first block of a report that contains the marker. -/
def selectBlock (marker separator report : Text) : Except Fault Block :=
  if separator.isEmpty then .error .emptySeparator
  else
    let all := blocks separator report
    match all.zipIdx.find? fun (text, _) => Text.occursIn marker text with
    | none => .error (.noBlock marker)
    | some (text, index) => .ok { text, index, count := all.length }

end Retrace.Trace
