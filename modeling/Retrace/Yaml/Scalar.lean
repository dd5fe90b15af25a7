import Retrace.Numeral
import Retrace.Text.Digit
import Retrace.Yaml.Cursor
import Retrace.Yaml.Fault

/-!
# Scalars as they are written

A scalar stands in quotes, in a block of its own, or plain.  Where a scalar in quotes or a plain
one goes over several lines, a single line end counts as a space and every further one as itself.
-/

namespace Retrace.Yaml

/-- What a reader of a part of a text returns: the part, and the place after it. -/
abbrev Reading (α : Type) := Except Fault (α × Cursor)

/-! ## Between the words of a scalar -/

/-- The line ends of a run of empty lines, before a word of a scalar in quotes.  A line that
starts or ends a document may not come here. -/
def emptyLines : Nat → Cursor → Reading Text
  | 0, c => .ok ([], c)
  | steps + 1, c =>
    if c.atMarker then .error .document
    else
      let c := c.skipWhile isGap
      match c.lineBreak? with
      | none => .ok ([], c)
      | some (b, c) =>
        match emptyLines steps c with
        | .error e => .error e
        | .ok (bs, c) => .ok (b :: bs, c)

/-- What the line end `b` with the ends `bs` of the empty lines after it counts as. -/
def foldedBreaks (b : Char) (bs : Text) : Text :=
  if b ≠ '\n' then b :: bs else if bs.isEmpty then [' '] else bs

/-- What stands between two words of a scalar in quotes. -/
def quotedGap (c : Cursor) : Reading Text :=
  let (gap, c) := c.takeWhile isGap
  match c.peek, c.lineBreak? with
  | none, _ => .error .document
  | some _, none => .ok (gap, c)
  | some _, some (b, c) =>
    match emptyLines c.rest.length c with
    | .error e => .error e
    | .ok (bs, c) => .ok (foldedBreaks b bs, c)

/-! ## Scalars in quotes -/

/-- The character that an escape of one letter stands for. -/
def escapedChar? : Char → Option Char
  | '0' => some '\x00'
  | 'a' => some '\x07'
  | 'b' => some '\x08'
  | 't' => some '\t'
  | '\t' => some '\t'
  | 'n' => some '\n'
  | 'v' => some '\x0b'
  | 'f' => some '\x0c'
  | 'r' => some '\r'
  | 'e' => some '\x1b'
  | ' ' => some ' '
  | '"' => some '"'
  | '\\' => some '\\'
  | '/' => some '/'
  | 'N' => some '\x85'
  | '_' => some '\xa0'
  | 'L' => some '\u2028'
  | 'P' => some '\u2029'
  | _ => none

/-- The number of hexadecimal digits after the letter of an escape by code. -/
def escapeDigits? : Char → Option Nat
  | 'x' => some 2
  | 'u' => some 4
  | 'U' => some 8
  | _ => none

/-- The number that hexadecimal digits stand for. -/
def hexNumber? (ds : Text) : Option Nat :=
  ds.foldlM (fun n d => (Text.hexValue? d).map (16 * n + ·)) 0

/-- The character of a code. -/
def codeChar (n : Nat) : Except Fault Char :=
  if n ≥ 0x80000000 then .error .tooGreat
  else if n ≥ 0x110000 then .error .noCharacter
  else if 0xD800 ≤ n ∧ n < 0xE000 then .ok '\uFFFD'
  else .ok (Char.ofNat n)

/-- Reads an escape from the character after the backslash on. -/
def readEscape (c : Cursor) : Reading Text :=
  match c.peek with
  | none => .error .document
  | some ch =>
    match escapedChar? ch, escapeDigits? ch with
    | some e, _ => .ok ([e], c.next)
    | none, some count =>
      let ds := c.next.rest.take count
      if ds.length < count then .error .document
      else
        match hexNumber? ds with
        | none => .error .document
        | some n => (codeChar n).map fun e => ([e], c.next.skip count)
    | none, none =>
      match c.lineBreak? with
      | none => .error .document
      | some (_, c) => emptyLines c.rest.length c

/-- Whether a character may stand for itself inside a word of any scalar in quotes. -/
def isWordChar (c : Char) : Bool :=
  !(c = '\'' || c = '"' || c = '\\' || isGap c || isBreak c)

/-- Reads a word of a scalar in quotes: all up to a space, a line end or the closing quote. -/
def quotedWord (quote : Char) : Nat → Cursor → Reading Text
  | 0, c => .ok ([], c)
  | steps + 1, c =>
    let (run, c) := c.takeWhile isWordChar
    let andThen (t : Text) (c : Cursor) : Reading Text :=
      match quotedWord quote steps c with
      | .error e => .error e
      | .ok (more, c) => .ok (run ++ t ++ more, c)
    match c.peek with
    | some '\'' =>
      if quote = '"' then andThen ['\''] c.next
      else if c.peekAt 1 = some '\'' then andThen ['\''] (c.skip 2)
      else .ok (run, c)
    | some '"' => if quote = '"' then .ok (run, c) else andThen ['"'] c.next
    | some '\\' =>
      if quote = '"' then
        match readEscape c.next with
        | .error e => .error e
        | .ok (t, c) => andThen t c
      else andThen ['\\'] c.next
    | _ => .ok (run, c)

/-- Reads words and gaps up to the closing quote. -/
def quotedRest (quote : Char) : Nat → Cursor → Reading Text
  | 0, _ => .error .document
  | steps + 1, c =>
    match quotedWord quote (c.rest.length + 1) c with
    | .error e => .error e
    | .ok (word, c) =>
      if c.peek = some quote then .ok (word, c.next)
      else
        match quotedGap c with
        | .error e => .error e
        | .ok (gap, c) =>
          match quotedRest quote steps c with
          | .error e => .error e
          | .ok (more, c) => .ok (word ++ gap ++ more, c)

/-- Reads a scalar from its opening quote on. -/
def readQuoted (quote : Char) (c : Cursor) : Reading Text :=
  quotedRest quote (c.rest.length + 1) c.next

/-! ## Scalars in blocks -/

/-- What becomes of the line ends at the end of a block. -/
inductive Chomping
  | strip
  | clip
  | keep
deriving DecidableEq, Repr

/-- The chomping that a mark in the header of a block asks for. -/
def chomping? : Option Char → Option Chomping
  | some '+' => some .keep
  | some '-' => some .strip
  | _ => none

/-- Reads the digit that gives the indentation of a block, if there is one. -/
def readIndentation (c : Cursor) : Reading (Option Nat) :=
  match c.peek with
  | some '0' => .error .document
  | some d =>
    if '1' ≤ d ∧ d ≤ '9' then .ok (some (d.toNat - '0'.toNat), c.next) else .ok (none, c)
  | none => .ok (none, c)

/-- Reads the marks after that of a block: chomping and indentation, in either order. -/
def readHeader (c : Cursor) : Reading (Chomping × Option Nat) :=
  let marks : Reading (Chomping × Option Nat) :=
    match chomping? c.peek with
    | some chomping => (readIndentation c.next).map fun (n, c) => ((chomping, n), c)
    | none =>
      match readIndentation c with
      | .error e => .error e
      | .ok (none, c) => .ok ((.clip, none), c)
      | .ok (some n, c) =>
        match chomping? c.peek with
        | some chomping => .ok ((chomping, some n), c.next)
        | none => .ok ((.clip, some n), c)
  match marks with
  | .error e => .error e
  | .ok (marks, c) => if endsItem c.peek then .ok (marks, c) else .error .document

/-- The place after the rest of a line that may hold only a comment. -/
def skipRestOfLine (c : Cursor) : Except Fault Cursor :=
  let c := c.skipSpaces.skipComment
  if endsLine c.peek then .ok c.skipBreak else .error .document

/-- The line ends before the first line of a block with text in it, and the greatest column that
the spaces of those lines reach. -/
def leadingLines : Nat → Nat → Cursor → Text × Nat × Cursor
  | 0, widest, c => ([], widest, c)
  | steps + 1, widest, c =>
    let c := c.skipSpaces
    let widest := max widest c.column
    match c.lineBreak? with
    | none => ([], widest, c)
    | some (b, c) =>
      let (bs, widest, c) := leadingLines steps widest c
      (b :: bs, widest, c)

/-- The place after spaces, up to a column. -/
def skipIndentation (indent : Nat) (c : Cursor) : Cursor :=
  c.skip (min (indent - c.column) (c.rest.takeWhile (· = ' ')).length)

/-- The line ends of a run of empty lines in a block. -/
def blockBreaks (indent : Nat) : Nat → Cursor → Text × Cursor
  | 0, c => ([], c)
  | steps + 1, c =>
    let c := skipIndentation indent c
    match c.lineBreak? with
    | none => ([], c)
    | some (b, c) =>
      let (bs, c) := blockBreaks indent steps c
      (b :: bs, c)

/-- Whether a block goes on at a place. -/
def inBlock (indent : Nat) (c : Cursor) : Bool := c.column = indent && c.peek.isSome

/-- Whether a line of a block starts with a gap, which keeps the line ends around it. -/
def startsWithGap (c : Cursor) : Bool := c.peek.any isGap

/-- Reads the lines of a block, where `breaks` are the ends of the empty lines before them. -/
def blockLines (folded : Bool) (chomping : Chomping) (indent : Nat) :
    Nat → Text → Cursor → Text × Cursor
  | 0, _, c => ([], c)
  | steps + 1, breaks, c =>
    let gapped := startsWithGap c
    let (line, c) := c.takeWhile (!isBreak ·)
    let (lineEnd, c) : Text × Cursor := match c.lineBreak? with
      | some (b, c) => ([b], c)
      | none => ([], c)
    let (after, c) := blockBreaks indent (c.rest.length + 1) c
    if inBlock indent c then
      let between :=
        if folded && lineEnd = ['\n'] && !gapped && !startsWithGap c then
          if after.isEmpty then [' '] else []
        else lineEnd
      let (more, c) := blockLines folded chomping indent steps after c
      (breaks ++ line ++ between ++ more, c)
    else
      let tail := match chomping with
        | .strip => []
        | .clip => lineEnd
        | .keep => lineEnd ++ after
      (breaks ++ line ++ tail, c)

/-- Reads a scalar from the mark of its block on, inside a block at column `parent`. -/
def readBlock (folded : Bool) (parent : Int) (c : Cursor) : Except Fault (Text × Cursor) := do
  let ((chomping, indentation), c) ← readHeader c.next
  let c ← skipRestOfLine c
  let least := (max (parent + 1) 1).toNat
  let (indent, breaks, c) := match indentation with
    | some n =>
      let indent := least + n - 1
      let (breaks, c) := blockBreaks indent (c.rest.length + 1) c
      (indent, breaks, c)
    | none =>
      let (breaks, widest, c) := leadingLines (c.rest.length + 1) 0 c
      (max least widest, breaks, c)
  if inBlock indent c then
    pure (blockLines folded chomping indent (c.rest.length + 1) breaks c)
  else
    pure (if chomping = .keep then breaks else [], c)

/-! ## Plain scalars -/

/-- Whether a plain scalar ends before a character with another one after it. -/
def endsPlain (inFlow : Bool) (ch : Char) (after : Option Char) : Bool :=
  isGap ch || isBreak ch
    || (ch = ':' && (endsWord after
      || (inFlow && after.any fun c => c = ',' || c = '[' || c = ']' || c = '{' || c = '}')))
    || (inFlow && (ch = ',' || ch = '?' || ch = '[' || ch = ']' || ch = '{' || ch = '}'))

/-- A word of a plain scalar. -/
def plainWord (inFlow : Bool) : Text → Text
  | [] => []
  | ch :: t => if endsPlain inFlow ch t.head? then [] else ch :: plainWord inFlow t

/-- The line ends of a run of lines without text, unless one that starts or ends a document
follows. -/
def plainBreaks : Nat → Cursor → Option Text × Cursor
  | 0, c => (some [], c)
  | steps + 1, c =>
    if c.atMarker then (none, c)
    else
      let c := c.skipSpaces
      match c.lineBreak? with
      | none => (some [], c)
      | some (b, c) =>
        let (bs, c) := plainBreaks steps c
        (bs.map (b :: ·), c)

/-- What stands between two words of a plain scalar, and whether a line ended there. -/
def plainGap (c : Cursor) : Text × Bool × Cursor :=
  let (gap, c) := c.takeWhile (· = ' ')
  match c.lineBreak? with
  | none => (gap, false, c)
  | some (b, c) =>
    match plainBreaks (c.rest.length + 1) c with
    | (none, c) => ([], true, c)
    | (some bs, c) => (foldedBreaks b bs, true, c)

/-- What a plain scalar leaves behind: the place after it, and whether a line ended since its last
word. -/
structure PlainEnd where
  cursor : Cursor
  lineEnded : Bool

/-- Reads a plain scalar inside a block at column `parent`. -/
def readPlain (inFlow : Bool) (parent : Int) : Nat → Text → Bool → Cursor → Text × PlainEnd
  | 0, _, lineEnded, c => ([], ⟨c, lineEnded⟩)
  | steps + 1, gap, lineEnded, c =>
    let word := if c.peek = some '#' then [] else plainWord inFlow c.rest
    if word.isEmpty then ([], ⟨c, lineEnded⟩)
    else
      let (next, ended, c) := plainGap (c.skip word.length)
      if next.isEmpty || c.peek = some '#' || (!inFlow && (c.column : Int) < parent + 1) then
        (gap ++ word, ⟨c, ended⟩)
      else
        let (more, e) := readPlain inFlow parent steps next ended c
        (gap ++ word ++ more, e)

end Retrace.Yaml
