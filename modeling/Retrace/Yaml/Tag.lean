import Retrace.Text.Utf8
import Retrace.Yaml.Scalar
import Retrace.Yaml.Token

/-!
# Tags, anchors and directives as they are written
-/

namespace Retrace.Yaml

/-! ## Names -/

/-- Reads a name of at least one character. -/
def readName (c : Cursor) : Except Fault (Text × Cursor) :=
  let (name, c) := c.takeWhile isNameChar
  if name.isEmpty then .error .document else .ok (name, c)

/-- Whether the name of an anchor may end before a character. -/
def endsAnchor : Option Char → Bool
  | none => true
  | some c => endsWord (some c) || c = '?' || c = ':' || c = ',' || c = ']' || c = '}' || c = '%'
    || c = '@' || c = '\x60'

/-- Reads the name after the mark of an anchor or an alias. -/
def readAnchor (c : Cursor) : Except Fault (Text × Cursor) := do
  let (name, c) ← readName c.next
  if endsAnchor c.peek then pure (name, c) else throw .document

/-! ## Tags -/

/-- Whether a character may stand in the lead or the suffix of a tag. -/
def isTagChar (c : Char) : Bool :=
  ('0' ≤ c && c ≤ '9') || ('A' ≤ c && c ≤ 'Z') || ('a' ≤ c && c ≤ 'z')
    || "-;/?:@&=+$,_.!~*'()[]".toList.contains c

/-- The bytes of a run of escapes, each a percent sign with two hexadecimal digits. -/
def readEscapedBytes : Nat → Cursor → Except Fault (List UInt8 × Cursor)
  | 0, c => .ok ([], c)
  | steps + 1, c =>
    if c.peek = some '%' then
      let ds := c.next.rest.take 2
      match (if ds.length < 2 then none else hexNumber? ds) with
      | none => .error .document
      | some n =>
        match readEscapedBytes steps (c.skip 3) with
        | .error e => .error e
        | .ok (bs, c) => .ok (n.toUInt8 :: bs, c)
    else .ok ([], c)

/-- Reads the characters of a tag, which may be none. -/
def tagChars : Nat → Cursor → Except Fault (Text × Cursor)
  | 0, c => .ok ([], c)
  | steps + 1, c =>
    let (run, c) := c.takeWhile isTagChar
    if c.peek = some '%' then do
      let (bytes, c) ← readEscapedBytes c.rest.length c
      match Utf8.decode bytes with
      | .error _ => throw .document
      | .ok t =>
        let (more, c) ← tagChars steps c
        pure (run ++ t ++ more, c)
    else .ok (run, c)

/-- Reads the characters of a tag, of which there must be some. -/
def readTagChars (c : Cursor) : Except Fault (Text × Cursor) := do
  let (t, after) ← tagChars (c.rest.length + 1) c
  if after.index = c.index then throw .document else pure (t, after)

/-- Reads a tag handle: one exclamation mark, or a name between two. -/
def readHandle (c : Cursor) : Except Fault (Text × Cursor) :=
  if c.peek ≠ some '!' then .error .document
  else if c.peekAt 1 = some ' ' then .ok (['!'], c.next)
  else
    let (name, c) := c.next.takeWhile isNameChar
    if c.peek = some '!' then .ok ('!' :: (name ++ ['!']), c.next) else .error .document

/-- Whether a second exclamation mark comes before the end of a tag that starts here. -/
def hasHandle (c : Cursor) : Bool :=
  ((c.next.rest.takeWhile fun ch => !endsItem (some ch)).contains '!')

/-- Reads a tag, without asking what follows it. -/
def readTagItself (c : Cursor) : Except Fault (WrittenTag × Cursor) :=
  let after := c.peekAt 1
  if after = some '<' then do
    let (suffix, c) ← readTagChars (c.skip 2)
    if c.peek = some '>' then pure ({ handle := none, suffix }, c.next) else throw .document
  else if endsWord after then .ok ({ handle := none, suffix := ['!'] }, c.next)
  else if hasHandle c then do
    let (handle, c) ← readHandle c
    let (suffix, c) ← readTagChars c
    pure ({ handle := some handle, suffix }, c)
  else do
    let (suffix, c) ← readTagChars c.next
    pure ({ handle := some ['!'], suffix }, c)

/-- Reads a tag. -/
def readTag (c : Cursor) : Except Fault (WrittenTag × Cursor) := do
  let (tag, c) ← readTagItself c
  if endsItem c.peek then pure (tag, c) else throw .document

/-! ## Directives -/

/-- Reads a number of a version. -/
def readVersionNumber (c : Cursor) : Except Fault (Nat × Cursor) :=
  let (ds, c) := c.takeWhile Char.isDigit
  if ds.isEmpty then .error .document
  else
    match Numeral.read ds with
    | .ok n => .ok (n, c)
    | .error f => .error (.numeral f)

/-- Reads the version after the name of its directive. -/
def readVersion (c : Cursor) : Except Fault (Directive × Cursor) := do
  let (major, c) ← readVersionNumber c.skipSpaces
  if c.peek ≠ some '.' then throw .document
  let (minor, c) ← readVersionNumber c.next
  if endsItem c.peek then pure (.version major minor, c) else throw .document

/-- Reads the handle and the lead after the name of their directive. -/
def readTagHandle (c : Cursor) : Except Fault (Directive × Cursor) := do
  let (handle, c) ← readHandle c.skipSpaces
  if c.peek ≠ some ' ' then throw .document
  let (lead, c) ← readTagChars c.skipSpaces
  if endsItem c.peek then pure (.tagHandle handle lead, c) else throw .document

/-- Reads a directive with the rest of its line. -/
def readDirective (c : Cursor) : Except Fault (Directive × Cursor) := do
  let (name, c) ← readName c.next
  if !endsItem c.peek then throw .document
  let (directive, c) ←
    if name = "YAML".toList then readVersion c
    else if name = "TAG".toList then readTagHandle c
    else pure (.unknown, c.skipWhile (!isBreak ·))
  pure (directive, ← skipRestOfLine c)

end Retrace.Yaml
