import Retrace.Json.Basic

/-!
# Entries of a trace

A trace that has been read is a list of entries: lines that stand for themselves, and frames with
their position in the sources.
-/

namespace Retrace

/-- A frame and where it came from.  A frame without a source is unmapped. -/
structure Frame where
  source : Option Json
  line : Option Int
  column : Option Int
  name : Option Text
  /-- The line of the trace that the frame was read from. -/
  raw : Text
deriving Inhabited, Repr, BEq

/-- An entry of a trace. -/
inductive Entry
  /-- A line that stands for itself. -/
  | verbatim (text : Text)
  | frame (f : Frame)
deriving Inhabited, Repr, BEq

namespace Entry

/-- The source of a mapped frame. -/
def source? : Entry → Option Json
  | .verbatim _ => none
  | .frame f => f.source

/-- The sources of the mapped frames, in order. -/
def sources (entries : List Entry) : List Json := entries.filterMap source?

end Entry

end Retrace
