import Retrace.Json.Fault
import Retrace.Text.Quoted

/-!
# Why a text is no source map

A map is refused for its mappings (they cannot be decoded) or for its form (the text is no JSON
document, or not one of the expected kinds).  The wording of a fault of form names its cause.
-/

namespace Retrace.SourceMap

/-- Why a text is no source map. -/
inductive Fault
  /-- A segment ends inside a number. -/
  | unfinishedNumber
  /-- A segment refers to a source that is not there. -/
  | sourceOutOfRange (segment : Text) (id : Int) (count : Nat)
  /-- A segment has a source but not both a line and a column. -/
  | shortSegment (segment : Text) (fields : List Int)
  /-- A segment refers to a name that is not there. -/
  | nameOutOfRange (segment : Text) (id : Int) (count : Nat)
  /-- The text is no JSON document. -/
  | json (f : Json.Fault)
  /-- A field is missing. -/
  | missing (key : Text)
  /-- Sources that are keyed by texts have none of this number. -/
  | keyedSource (id : Int)
  /-- A text is no numeral. -/
  | noNumeral (t : Text)
  /-- The value that is no number has no whole part. -/
  | notNumber
  /-- A number has too many digits. -/
  | numeral (f : Numeral.Fault)
  /-- A value is of the wrong kind. -/
  | wrongKind
  /-- The mappings are no text. -/
  | mappingsKind
  /-- A position becomes negative. -/
  | negative
  /-- A character of the mappings stands for no digit. -/
  | character
  /-- A text that opens with a guard ends on that line. -/
  | guardOnly
deriving DecidableEq, Repr

/-- The kinds of cause by which faults are told apart. -/
inductive Cause
  | decode
  | json
  | key
  | value
  | type
  | attribute
  | index
deriving DecidableEq, Repr

/-- The name of a kind of cause. -/
def Cause.name : Cause → Text
  | .decode => "SourceMapDecodeError".toList
  | .json => "JSONDecodeError".toList
  | .key => "KeyError".toList
  | .value => "ValueError".toList
  | .type => "TypeError".toList
  | .attribute => "AttributeError".toList
  | .index => "IndexError".toList

namespace Fault

/-- The kind of the cause of a fault. -/
def cause : Fault → Cause
  | .unfinishedNumber | .sourceOutOfRange .. | .shortSegment .. | .nameOutOfRange .. => .decode
  | .json (.misfit _) => .json
  | .json (.numeral _) | .noNumeral _ | .notNumber | .numeral _ => .value
  | .missing _ | .keyedSource _ => .key
  | .wrongKind => .type
  | .mappingsKind | .negative => .attribute
  | .character | .guardOnly => .index

/-- Numbers as a list. -/
def shownFields (fields : List Int) : Text :=
  '[' :: (Text.join ", ".toList (fields.map Numeral.signedDigits) ++ [']'])

/-- The wording of a reference from a segment to something that is not there. -/
def outOfRange (segment : Text) (kind : Text) (id : Int) (count : Nat) : Text :=
  "Segment ".toList ++ segment ++ " references ".toList ++ kind ++ ' ' :: Numeral.signedDigits id
    ++ "; there are ".toList ++ Numeral.digits count ++ ' ' :: kind ++ ['s']

/-- The most characters of a text that is no numeral which are shown, quotes included. -/
def shownNumeralLimit : Nat := 200

/-- What a fault says of its cause: for a fault of the mappings the whole, for one of form the
argument of the cause, and nothing where the cause is told by its kind alone. -/
def detail? : Fault → Option Text
  | .unfinishedNumber => some "leftover cur/shift in vlq decode".toList
  | .sourceOutOfRange segment id count => some (outOfRange segment "source".toList id count)
  | .shortSegment segment fields =>
    some ("Invalid segment ".toList ++ segment ++ ", parsed as ".toList ++ shownFields fields)
  | .nameOutOfRange segment id count => some (outOfRange segment "name".toList id count)
  | .json (.misfit m) => some (Text.quoted m.message)
  | .json (.numeral f) | .numeral f => some (Text.quoted f.message)
  | .missing key => some (Text.quoted key)
  | .keyedSource id => some (Numeral.signedDigits id)
  | .noNumeral t =>
    some (Text.quoted ("invalid literal for int() with base 10: ".toList
      ++ (Text.quoted t).take shownNumeralLimit))
  | .notNumber => some (Text.quoted "cannot convert float NaN to integer".toList)
  | .wrongKind | .mappingsKind | .negative | .character | .guardOnly => none

/-- The wording of a fault. -/
def message (f : Fault) : Text :=
  match f.cause, f.detail? with
  | .decode, detail => "Invalid source map mappings: ".toList ++ detail.getD []
  | cause, some detail =>
    "Malformed source map: ".toList ++ cause.name ++ '(' :: (detail ++ [')'])
  | cause, none => "Malformed source map: ".toList ++ cause.name

end Fault

end Retrace.SourceMap
