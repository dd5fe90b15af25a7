import Retrace.Journal.Level
import Retrace.Trace.Symbolication

/-!
# Configurations

A configuration says how the trace is found in a report, how it is printed, and what is written to
the journal.
-/

namespace Retrace

namespace Config

/-- How the trace is found. -/
structure TraceSettings where
  marker : Text := Trace.defaultMarker
  separator : Text := Trace.defaultSeparator
deriving DecidableEq, Repr

/-- How the trace is printed. -/
structure FormatSettings where
  shorten : Bool := true
  excluded : Text := Trace.defaultExcludedMarker
deriving DecidableEq, Repr

end Config

/-- A configuration. -/
structure Config where
  trace : Config.TraceSettings := {}
  format : Config.FormatSettings := {}
  logging : Journal.Settings := {}
deriving DecidableEq, Repr

namespace Config

/-- What a configuration does with a report, where `long` asks for whole sources. -/
def symbolication (c : Config) (long : Bool) : Trace.Symbolication where
  marker := c.trace.marker
  separator := c.trace.separator
  layout := { shorten := c.format.shorten && !long, excluded := c.format.excluded }

/-- Why the settings of a configuration do not go together. -/
inductive Conflict
  | separatorOnOneLine
  | separatorInMarker
deriving DecidableEq, Repr

/-- The wording of a conflict. -/
def Conflict.message : Conflict → Text
  | .separatorOnOneLine => "Block separator must contain a newline".toList
  | .separatorInMarker => "Trace marker cannot contain the block separator".toList

/-- The conflict in a configuration: the separator must go over a line end, and must not be part of
the marker, since no block could then contain it. -/
def conflict? (c : Config) : Option Conflict :=
  if '\n' ∉ c.trace.separator then some .separatorOnOneLine
  else if Text.occursIn c.trace.separator c.trace.marker then some .separatorInMarker
  else none

end Config

end Retrace
