import Retrace.Numeral
import Retrace.Text.Quoted

/-!
# Why a report has no symbolicated trace

The faults of the stages from the report to the printed trace.
-/

namespace Retrace.Trace

/-- Why a report has no symbolicated trace. -/
inductive Fault
  /-- A report cannot be cut at an empty separator. -/
  | emptySeparator
  /-- No block of the report contains the marker. -/
  | noBlock (marker : Text)
  /-- The line of this number, counted from one, is neither a frame nor the first line nor empty. -/
  | strayLine (number : Nat) (line : Text)
  /-- A position has too many digits to be read or written. -/
  | numeral (f : Numeral.Fault)
  /-- The sources are of kinds that have no order among each other. -/
  | unlikeSources
  /-- A source that is no text has no lead to cut. -/
  | sourceWithoutLead
deriving DecidableEq, Repr

/-- The wording of a fault; those about the kind of a source have none. -/
def Fault.message? : Fault → Option Text
  | .emptySeparator => some "empty separator".toList
  | .noBlock marker => some ("No stack trace block contains marker ".toList ++ Text.quoted marker)
  | .strayLine number line =>
    some ("Stack trace parse error at line ".toList ++ Numeral.digits number ++ ": ".toList
      ++ line)
  | .numeral f => some f.message
  | .unlikeSources | .sourceWithoutLead => none

end Retrace.Trace
