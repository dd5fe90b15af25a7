import Retrace.Config.Basic
import Retrace.Config.Layer
import Retrace.Text.Utf8

/-!
# From settings to a configuration

Every setting of a configuration has a kind that its value must be of.  All problems of a layer are
found, in the order of the settings, those of unknown sections last.
-/

namespace Retrace.Config

open Yaml (Value)

/-- What is wrong with a setting. -/
inductive ProblemKind
  /-- A section, or the whole, is no mapping. -/
  | noMapping
  | noText
  /-- Bytes are no UTF-8. -/
  | noUnicode
  /-- A value is not allowed. -/
  | refused
  /-- A value is not one of the few that are allowed. -/
  | noChoice
  /-- A text or number is no truth value. -/
  | noTruth
  /-- A value is of no kind that a truth value could be read from. -/
  | truthKind
  | unknownSection
deriving DecidableEq, Repr

/-- The name of what is wrong. -/
def ProblemKind.name : ProblemKind → Text
  | .noMapping => "model_type".toList
  | .noText => "string_type".toList
  | .noUnicode => "string_unicode".toList
  | .refused => "value_error".toList
  | .noChoice => "literal_error".toList
  | .noTruth => "bool_parsing".toList
  | .truthKind => "bool_type".toList
  | .unknownSection => "extra_forbidden".toList

/-- A problem with the setting at a path of keys. -/
structure Problem where
  path : List Text
  kind : ProblemKind
deriving DecidableEq, Repr

/-! ## Kinds of settings -/

/-- A setting that is a text. -/
def readText : Value → Except ProblemKind Text
  | .text t => .ok t
  | .bytes bs => (Utf8.decode bs).mapError fun _ => .noUnicode
  | _ => .error .noText

/-- A text that is not empty. -/
def readMarker (v : Value) : Except ProblemKind Text :=
  match readText v with
  | .ok [] => .error .refused
  | r => r

/-- The texts that stand for a truth value, in small letters. -/
def truthTexts : List (Text × Bool) := [
  ("true".toList, true), ("t".toList, true), ("yes".toList, true), ("y".toList, true),
  ("on".toList, true), ("1".toList, true), ("false".toList, false), ("f".toList, false),
  ("no".toList, false), ("n".toList, false), ("off".toList, false), ("0".toList, false)]

/-- The truth value of a text. -/
def truthOf (t : Text) : Except ProblemKind Bool :=
  match truthTexts.lookup (t.map Char.toLower) with
  | some b => .ok b
  | none => .error .noTruth

/-- The truth value of a whole number. -/
def truthOfWhole (n : Int) : Except ProblemKind Bool :=
  if n = 0 then .ok false else if n = 1 then .ok true else .error .noTruth

/-- The size of the whole numbers that are too great to be taken for truth values at all. -/
def truthLimit : Int := 0x8000000000000000

/-- A setting that is a truth value. -/
def readTruth : Value → Except ProblemKind Bool
  | .bool b => .ok b
  | .text t => truthOf t
  | .bytes bs =>
    match Utf8.decode bs with
    | .ok t => truthOf t
    | .error _ => .error .noTruth
  | .int n => if -truthLimit ≤ n ∧ n < truthLimit then truthOfWhole n else .error .truthKind
  | .real r =>
    match r.whole? with
    | some n => if -truthLimit < n ∧ n < truthLimit then truthOfWhole n else .error .truthKind
    | none => .error .truthKind
  | _ => .error .truthKind

/-- A setting that is one of a few texts. -/
def readChoice {α : Type} (ofName? : Text → Option α) : Value → Except ProblemKind α
  | .text t =>
    match ofName? t with
    | some a => .ok a
    | none => .error .noChoice
  | _ => .error .noChoice

/-! ## Sections -/

/-- What comes of reading settings: a result if there is no problem. -/
structure Checked (α : Type) where
  result : Option α
  problems : List Problem

namespace Checked

/-- Settings read one after the other. -/
def both {α β γ : Type} (f : α → β → γ) (a : Checked α) (b : Checked β) : Checked γ where
  result := do
    let x ← a.result
    let y ← b.result
    pure (f x y)
  problems := a.problems ++ b.problems

/-- A single problem. -/
def failed {α : Type} (path : List Text) (kind : ProblemKind) : Checked α :=
  ⟨none, [⟨path, kind⟩]⟩

end Checked

/-- The setting of a key of a section, or its default. -/
def readKey {α : Type} (name key : Text) (read : Value → Except ProblemKind α) (default : α)
    (fields : Fields) : Checked α :=
  match Json.field? key fields with
  | none => ⟨some default, []⟩
  | some v =>
    match read v with
    | .ok a => ⟨some a, []⟩
    | .error kind => .failed [name, key] kind

/-- A section of a layer, or its default. -/
def readSection {α : Type} (name : Text) (read : Fields → Checked α) (default : α)
    (layer : Fields) : Checked α :=
  match Json.field? name layer with
  | none => ⟨some default, []⟩
  | some (.mapping fields _) => read fields
  | some _ => .failed [name] .noMapping

/-- The section on how the trace is found. -/
def traceNames : SectionNames := ⟨"trace".toList, ["marker".toList, "block_separator".toList]⟩

/-- The section on how the trace is printed. -/
def formatNames : SectionNames :=
  ⟨"format".toList, ["shorten".toList, "excluded_prefix_marker".toList]⟩

/-- The section on what is written to the journal. -/
def loggingNames : SectionNames := ⟨"logging".toList, ["level".toList, "format".toList]⟩

/-- All sections, in order. -/
def sections : List SectionNames := [traceNames, formatNames, loggingNames]

/-- Reads the section on how the trace is found. -/
def readTrace (fields : Fields) : Checked TraceSettings :=
  let d : TraceSettings := {}
  .both TraceSettings.mk
    (readKey "trace".toList "marker".toList readMarker d.marker fields)
    (readKey "trace".toList "block_separator".toList readText d.separator fields)

/-- Reads the section on how the trace is printed. -/
def readFormat (fields : Fields) : Checked FormatSettings :=
  let d : FormatSettings := {}
  .both FormatSettings.mk
    (readKey "format".toList "shorten".toList readTruth d.shorten fields)
    (readKey "format".toList "excluded_prefix_marker".toList readText d.excluded fields)

/-- Reads the section on what is written to the journal. -/
def readLogging (fields : Fields) : Checked Journal.Settings :=
  let d : Journal.Settings := {}
  .both Journal.Settings.mk
    (readKey "logging".toList "level".toList (readChoice Journal.Level.ofName?) d.level fields)
    (readKey "logging".toList "format".toList (readChoice Journal.Format.ofName?) d.format fields)

/-- The configuration of a layer with keys that name no section. -/
def readLayer (layer : Fields) (strays : List Text) : Except (List Problem) Config :=
  let d : Config := {}
  let checked : Checked Config :=
    .both (fun trace rest => Config.mk trace rest.1 rest.2)
      (readSection "trace".toList readTrace d.trace layer)
      (.both Prod.mk
        (readSection "format".toList readFormat d.format layer)
        (readSection "logging".toList readLogging d.logging layer))
  match checked.result, checked.problems ++ strays.map fun key => ⟨[key], .unknownSection⟩ with
  | some c, [] => .ok c
  | _, problems => .error problems

end Retrace.Config
