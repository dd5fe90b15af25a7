import Retrace.Main
import Retrace.Proofs.Numeral
import Retrace.Proofs.Text.Cutting
import Retrace.Proofs.Traversal
import Retrace.Proofs.Trace.FrameLine
import Retrace.Proofs.Trace.Reading
import Retrace.Proofs.Trace.Block
import Retrace.Proofs.Trace.Layout
import Retrace.Proofs.Trace.Symbolication
import Retrace.Proofs.Json.Quoting
import Retrace.Proofs.Json.RoundTrip
import Retrace.Proofs.SourceMap.Answers
import Retrace.Proofs.SourceMap.Vlq
import Retrace.Proofs.SourceMap.Encoding
import Retrace.Proofs.SourceMap.Document
import Retrace.Proofs.SourceMap.Lookup
import Retrace.Proofs.SourceMap.Regular
import Retrace.Proofs.SourceMap.Sections
import Retrace.Proofs.SourceMap.Partition
import Retrace.Proofs.SourceMap.Indexed
import Retrace.Proofs.SourceMap.Loading
import Retrace.Proofs.Trace.Completeness
import Retrace.Proofs.SourceMap.Decoding
import Retrace.Proofs.SourceMap.Closest
import Retrace.Proofs.SourceMap.Rising
import Retrace.Proofs.Trace.Leading
import Retrace.Proofs.Trace.Spacing
import Retrace.Proofs.SourceMap.Spelling
import Retrace.Proofs.SourceMap.Totals
import Retrace.Proofs.SourceMap.Validity
import Retrace.Proofs.SourceMap.Delegation
import Retrace.Proofs.SourceMap.Provenance
import Retrace.Proofs.Trace.Frames
import Retrace.Proofs.Trace.Printing
import Retrace.Proofs.Config.Selection
import Retrace.Proofs.SourceMap.Guard
import Retrace.Proofs.Command.Delivery
import Retrace.Proofs.Config.Faults
import Retrace.Proofs.Command.Refusal
import Retrace.Proofs.Trace.Shapes
import Retrace.Proofs.Trace.Extent
import Retrace.Proofs.Text.Case
import Retrace.Proofs.Yaml.Keys
import Retrace.Proofs.Config.Overlay
import Retrace.Proofs.Config.Sources
import Retrace.Proofs.Config.Settings
import Retrace.Proofs.Config.Precedence
import Retrace.Proofs.Trace.Rereading
import Retrace.Proofs.SourceMap.Governing
import Retrace.Proofs.SourceMap.Queries
import Retrace.Proofs.Text.Leads
import Retrace.Proofs.Trace.Stem
import Retrace.Proofs.Text.Extremes
import Retrace.Proofs.Trace.LongestStem
import Retrace.Proofs.Trace.Shortening
import Retrace.Proofs.Text.Pieces
import Retrace.Proofs.Trace.Selection
import Retrace.Proofs.Config.Substitution
import Retrace.Proofs.Journal.Events
import Retrace.Proofs.Journal.Sessions
