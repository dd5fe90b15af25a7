import Retrace.Numeral
import Retrace.Text.Quoted

/-!
# Why a text has no YAML value

Most faults are those of the document: its form, or a value that its tag does not allow.  The
others arise where a scalar of a well-formed document is turned into a value.
-/

namespace Retrace.Yaml

/-- Why a text has no YAML value. -/
inductive Fault
  /-- The document is malformed, or a node does not fit its tag. -/
  | document
  /-- An escape gives a number that no character has. -/
  | noCharacter
  /-- An escape or a factor is too great. -/
  | tooGreat
  /-- A number has too many digits. -/
  | numeral (f : Numeral.Fault)
  /-- A text is no whole number in a base. -/
  | noInteger (base : Nat) (t : Text)
  /-- A text is no real number. -/
  | noReal (t : Text)
  /-- A number has no text at all. -/
  | emptyNumber
  /-- A text is no truth value. -/
  | noTruth
  /-- A text is no moment in time. -/
  | noMoment
  /-- A node that is no scalar is tagged as a moment in time. -/
  | momentKind
  /-- The parts of a moment lie outside the calendar. -/
  | calendar (message : Text)
  /-- A scalar refers to itself. -/
  | endless
deriving DecidableEq, Repr

/-- The most characters of a text that is no whole number which are shown, quotes included. -/
def shownNumberLimit : Nat := 200

/-- The wording of the faults of scalar values. -/
def Fault.message? : Fault → Option Text
  | .noCharacter => some "chr() arg not in range(0x110000)".toList
  | .numeral f => some f.message
  | .noInteger base t =>
    some ("invalid literal for int() with base ".toList ++ Numeral.digits base ++ ": ".toList
      ++ (Text.quoted t).take shownNumberLimit)
  | .noReal t => some ("could not convert string to float: ".toList ++ Text.quoted t)
  | .calendar message => some message
  | .document | .tooGreat | .emptyNumber | .noTruth | .noMoment | .momentKind | .endless => none

end Retrace.Yaml
