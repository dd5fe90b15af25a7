import Retrace.Json.Order
import Retrace.Trace.Fault

/-!
# The stem of the sources

The sources of a trace mostly lie in one directory.  The stem is the lead that they share, cut
back so that it does not contain a marker (such as the name of the directory of dependencies), and
it is empty if there is nothing worth cutting: for fewer than two sources, and when the stem would
be a whole source.  A source is shown with `./` in place of the stem.
-/

namespace Retrace.Trace

/-- The text that a stem does not contain unless another is set. -/
def defaultExcludedMarker : Text := "node_modules".toList

/-- The stem of sources that are texts. -/
def textStem (excluded : Text) (sources : List Text) : Text :=
  match sources with
  | [] | [_] => []
  | first :: _ =>
    let lead := Text.sharedLead sources
    let stem := if excluded.isEmpty then lead else Text.leadClearOf excluded lead
    if stem = first then [] else stem

/-- The items that the least and the greatest of some lists share at their start, up to the first
item that is the marker. -/
def listLead (excluded : Text) (first : List Json) (rest : List (List Json)) :
    Option (List Json) := do
  let least ← Json.leastList? first rest
  let greatest ← Json.greatestList? first rest
  let shared := Json.commonItems least greatest
  pure (if excluded.isEmpty then shared else shared.takeWhile (!Json.alike (.text excluded) ·))

/-- The stem of sources of any kind.  Lists among each other may share items instead of
characters; then there must be nothing to cut. -/
def stem (excluded : Text) (sources : List Json) : Except Fault Text :=
  match sources with
  | [] | [_] => .ok []
  | .list first :: rest =>
    match rest.mapM Json.asList? with
    | none => .error .unlikeSources
    | some rest =>
      match listLead excluded first rest with
      | none => .error .unlikeSources
      | some shared =>
        if shared.isEmpty || Json.alike (.list shared) (.list first) then .ok []
        else .error .sourceWithoutLead
  | sources =>
    match sources.mapM Json.asText? with
    | none => .error .unlikeSources
    | some sources => .ok (textStem excluded sources)

/-- A source with `./` in place of the stem, if it starts with one. -/
def shortened (stem source : Text) : Text :=
  if stem.isEmpty then source
  else
    match Text.dropLead? stem source with
    | some rest => "./".toList ++ rest
    | none => source

end Retrace.Trace
