import Retrace.Command.Help
import Retrace.FileTree
import Retrace.SourceMap.Query
import Retrace.Trace.Symbolication

/-!
# Events of a run

What happens in a run goes to the journal as events.
-/

namespace Retrace.Command

open Journal (Event Level)

/-- The parts of the program that events come from. -/
def loggerOf (part : Text) : Text := program ++ '.' :: part

/-- An event of a part of the program. -/
def event (level : Level) (part name : String) (fields : List (String × Json)) : Event where
  level
  logger := loggerOf part.toList
  text := name.toList
  fields := fields.map fun (key, v) => (key.toList, v)

/-- The event of something that happens while a report is symbolicated. -/
def noteEvent : Trace.Note → Event
  | .blockSelected index count =>
    event .debug "core.trace_input" "trace_block_selected"
      [("block", .int index), ("blocks", .int count)]
  | .positionUnmapped line column name => SourceMap.unmappedEvent name line column
  | .strayLine number line =>
    event .debug "core.processor" "stack_line_unmatched"
      [("line_number", .int number), ("text", .text line)]
  | .traceEnded number skipped =>
    event .debug "core.processor" "stack_terminated"
      [("line_number", .int number), ("skipped", .int skipped)]
  | .traceRead entries =>
    event .debug "core.processor" "stack_processed" [("entries", .int entries)]
  | .stemFound stem sources =>
    event .debug "core.formatter" "source_prefix_computed"
      [("prefix", .text stem), ("sources", .int sources)]
  | .symbolicated entries shorten =>
    event .info "core.pipeline" "trace_symbolicated"
      [("frames", .int entries), ("shorten", .bool shorten)]

/-- The event of a map that was loaded. -/
def mapLoaded (path : Text) : Event :=
  event .debug "core.resolver" "source_map_loaded" [("path", .text path)]

/-- The event of the start of a run. -/
def starting : Event :=
  event .debug "__main__" "crashlyfix_starting" [("version", .text Journal.version)]

/-- The event of a switch that does nothing. -/
def traceIgnored (value : Value) : Event :=
  let shown := match value with
    | .text path => FilePath.normalize path
    | .dropped => "[]".toList
  event .debug "__main__" "option_ignored"
    [("option", .text "--trace".toList), ("value", .text shown)]

/-- The event of a run that failed. -/
def runFailed (kind message : Text) : Event :=
  event .error "__main__" "crashlyfix_failed"
    [("error_type", .text kind), ("error", .text message)]

/-- The event of an output that was written. -/
def outputWritten (path : Text) : Event :=
  event .debug "__main__" "output_written" [("path", .text path)]

/-- The event of a configuration that is not there. -/
def configurationMissing (path message : Text) : Event :=
  event .error "__main__" "configuration_file_not_found"
    [("path", .text path), ("error", .text message)]

/-- The event of a configuration that is refused, with a message where its wording is fixed. -/
def configurationInvalid (message : Option Text) : Event :=
  event .error "__main__" "configuration_invalid"
    ((message.map fun t => ("error", Json.text t)).toList)

end Retrace.Command
