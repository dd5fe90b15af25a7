import Retrace.Journal.Session
import Retrace.SourceMap.Basic

/-!
# Queries in a session

The journal is told of a position that no token covers, by an event that holds the numbers of the
query as they are.  `SourceMap.resolveIn` is what a map answers in a session of the journal: what
`SourceMap.resolve` says, unless the event is at fault, for then there is no answer.
-/

namespace Retrace.SourceMap

open Journal (Event EventFault Session)

/-- The event of a position that no token covers. -/
def unmappedEvent (name : Option Text) (line column : Int) : Event where
  level := .debug
  logger := Journal.service ++ ".core.resolver".toList
  text := "position_unmapped".toList
  fields := [("line".toList, .int line), ("column".toList, .int column),
    ("name".toList, (name.map Json.text).getD .null)]

/-- The position in the sources of a generated one, asked for in a session under a name. -/
def resolveIn (m : SourceMap) (s : Session) (name : Option Text) (line column : Int) :
    Except EventFault (Option Position) :=
  if m.uncovered line column then (s.emit (unmappedEvent name line column)).map fun _ => none
  else .ok (m.resolve line column)

end Retrace.SourceMap
