import Retrace.Json.Parser
import Retrace.Json.Shown
import Retrace.SourceMap.Mappings

/-!
# Regular maps

A regular map is a JSON object with sources, names and mappings, and sometimes a root that the
sources are relative to.  Its text may open with a guard line, which keeps it from being run as a
script and is passed over.
-/

namespace Retrace.SourceMap

/-- What a guard line starts with. -/
def guardOpening : Text := ")]\x7d".toList

/-- The text of a map after its guard line, if it has one. -/
def afterGuard (t : Text) : Except Fault Text :=
  if Text.startsWith guardOpening t then
    match Text.afterFirstLine? t with
    | some rest => .ok rest
    | none => .error .guardOnly
  else .ok t

/-- A field that an object must have. -/
def field (key : Text) : Json → Except Fault Json
  | .object fields =>
    match Json.field? key fields with
    | some v => .ok v
    | none => .error (.missing key)
  | _ => .error .wrongKind

/-- The members of a value: the items of a list, the characters of a text, the keys of an
object. -/
def members? : Json → Option (List Json)
  | .list items => some items
  | .text t => some (t.map fun c => .text [c])
  | .object fields => some (fields.map fun (key, _) => .text key)
  | _ => none

/-- The names of a map, each as it is shown. -/
def readNames (names : Json) : Except Fault (List Text) :=
  match members? names with
  | some names => .ok (names.map Json.shown)
  | none => .error .wrongKind

/-- A source under a root. -/
def joinPath (root source : Text) : Text :=
  if Text.startsWith ['/'] source || root.isEmpty then source
  else if root.getLast? = some '/' then root ++ source
  else root ++ '/' :: source

/-- A source under a root, where both must be texts. -/
def rootedSource : Json → Json → Except Fault Json
  | .text root, .text source => .ok (.text (joinPath root source))
  | _, _ => .error .wrongKind

/-- The sources of a map, under its root if it has one. -/
def readSources (root : Option Json) (sources : Json) : Except Fault Sources :=
  match root with
  | some root =>
    match members? sources with
    | some sources => (sources.mapM (rootedSource root)).map .items
    | none => .error .wrongKind
  | none =>
    match sources with
    | .list items => .ok (.items items)
    | .text t => .ok (.items (t.map fun c => .text [c]))
    | .object fields => .ok (.keyed fields.length)
    | _ => .ok .uncountable

/-- The root of a map.  A null is no root. -/
def rootOf : Json → Option Json
  | .object fields =>
    match Json.field? "sourceRoot".toList fields with
    | some .null => none
    | root => root
  | _ => none

/-- Decodes a regular map from its JSON document. -/
def decodeRegular (document : Json) : Except Fault Table := do
  let sources ← field "sources".toList document
  let names ← readNames (← field "names".toList document)
  let mappings ← field "mappings".toList document
  match mappings with
  | .text mappings => do
    let sources ← readSources (rootOf document) sources
    decodeMappings sources names mappings
  | _ => .error .mappingsKind

/-- Reads a regular map. -/
def readRegular (t : Text) : Except Fault Table := do
  let body ← afterGuard t
  match Json.parse body with
  | .error f => .error (.json f)
  | .ok document => decodeRegular document

end Retrace.SourceMap
