import Retrace.Yaml.Fault

/-!
# Tokens of a YAML text

Tokens are the marks and scalars of a text, with the starts and ends of block collections made
explicit.
-/

namespace Retrace.Yaml

/-- A tag as it is written: a handle, which stands for a lead, and what follows it. -/
structure WrittenTag where
  handle : Option Text
  suffix : Text
deriving DecidableEq, Repr

/-- A directive before a document. -/
inductive Directive
  | version (major minor : Nat)
  /-- The lead that a tag handle stands for. -/
  | tagHandle (handle lead : Text)
  | unknown
deriving DecidableEq, Repr

/-- A token. -/
inductive Token
  | directive (d : Directive)
  | documentStart
  | documentEnd
  | blockSequenceStart
  | blockMappingStart
  | blockEnd
  | flowSequenceStart
  | flowSequenceEnd
  | flowMappingStart
  | flowMappingEnd
  | blockEntry
  | flowEntry
  | key
  | value
  | alias (name : Text)
  | anchor (name : Text)
  | tag (t : WrittenTag)
  /-- A scalar, and whether it stands without quotes or a block mark. -/
  | scalar (text : Text) (plain : Bool)
  | streamEnd
  /-- The place where the tokens stop for a fault. -/
  | stop (f : Fault)
deriving DecidableEq, Repr

end Retrace.Yaml
