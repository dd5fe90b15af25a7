import Retrace.Json.Shown
import Retrace.Trace.Entry
import Retrace.Trace.Stem

/-!
# The printed trace

Every entry is printed on a line of its own.  A mapped frame shows its name, its source with the
stem cut, and its position there; an unmapped frame shows the line it was read from.
-/

namespace Retrace.Trace

/-- What a frame is indented by. -/
def indent : Text := "  ".toList

/-- A number of a position, or the word for a missing one. -/
def shownNumber : Option Int → Except Fault Text
  | none => .ok "None".toList
  | some n => (Numeral.write n).mapError .numeral

/-- A source as it is shown under a stem.  One that is empty, zero or false shows as nothing. -/
def shownSource (stem : Text) (source : Json) : Except Fault Text :=
  if !source.isSomething then .ok []
  else
    match source with
    | .text t => .ok (shortened stem t)
    | v => if stem.isEmpty then .ok v.shown else .error .sourceWithoutLead

/-- A mapped frame, by its parts as they are shown. -/
def mappedLine (name : Option Text) (source line column : Text) : Text :=
  let place := source ++ ':' :: line ++ ':' :: column
  match name with
  | none | some [] => indent ++ "at ".toList ++ place
  | some name => indent ++ "at ".toList ++ name ++ " (".toList ++ place ++ [')']

/-- The line of an entry under a stem. -/
def entryLine (stem : Text) : Entry → Except Fault Text
  | .verbatim text => .ok text
  | .frame f =>
    match f.source with
    | none => .ok (indent ++ f.raw)
    | some source => do
      let source ← shownSource stem source
      let line ← shownNumber f.line
      let column ← shownNumber f.column
      pure (mappedLine f.name source line column)

/-- How a trace is printed. -/
structure Layout where
  /-- Whether sources are shown without their stem. -/
  shorten : Bool := true
  /-- The text that the stem does not contain. -/
  excluded : Text := defaultExcludedMarker
deriving Repr

namespace Layout

/-- The stem that a layout cuts from the sources of a trace. -/
def stem (l : Layout) (entries : List Entry) : Except Fault Text :=
  if l.shorten then Trace.stem l.excluded (Entry.sources entries) else .ok []

/-- The lines of a trace. -/
def lines (l : Layout) (entries : List Entry) : Except Fault (List Text) := do
  let stem ← l.stem entries
  entries.mapM (entryLine stem)

/-- The printed trace, without a line feed at its end. -/
def print (l : Layout) (entries : List Entry) : Except Fault Text :=
  (l.lines entries).map (Text.join ['\n'])

end Layout

end Retrace.Trace
