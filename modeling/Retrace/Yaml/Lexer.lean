import Retrace.Yaml.Tag

/-!
# From text to tokens

Tokens come from the characters at hand, the column they stand in, and whether they stand in a
flow collection, between brackets, or outside.  A node may turn out to be the key of a mapping only
when the colon after it is met, on the same line and not too far on: until then it is pending, and
a `Mark` says afterwards where the tokens of the key belong.
-/

namespace Retrace.Yaml

/-- A node that may turn out to be a key. -/
structure PendingKey where
  /-- The number of tokens before it. -/
  tokens : Nat
  /-- Whether nothing but a key may stand there. -/
  required : Bool
  index : Nat
  line : Nat
  column : Nat
deriving Repr

/-- Where the tokens of a key belong. -/
structure Mark where
  /-- The number of tokens before it. -/
  tokens : Nat
  /-- Whether a mapping starts with the key. -/
  starts : Bool
deriving Repr

/-- The state of the lexer. -/
structure Lexer where
  cursor : Cursor
  /-- The tokens so far without those of keys, the last one first. -/
  tokens : List Token := []
  /-- The number of those tokens. -/
  count : Nat := 0
  marks : List Mark := []
  /-- The node that may turn out to be a key, in the flow collection at hand. -/
  pending : Option PendingKey := none
  /-- The same for each flow collection around it, and for the block around them all. -/
  outer : List (Option PendingKey) := []
  /-- The column of the block at hand. -/
  indent : Int := -1
  /-- The columns of the blocks around it. -/
  indents : List Int := []
  /-- Whether a node at hand may be a key. -/
  keyAllowed : Bool := true
deriving Repr

namespace Lexer

/-- The greatest number of characters between the starts of a key and of its colon. -/
def keyReach : Nat := 1024

/-- Whether the lexer is in a flow collection. -/
def inFlow (l : Lexer) : Bool := !l.outer.isEmpty

/-- Adds a token. -/
def push (t : Token) (l : Lexer) : Lexer := { l with tokens := t :: l.tokens, count := l.count + 1 }

/-- Moves on by `n` characters. -/
def move (n : Nat) (l : Lexer) : Lexer := { l with cursor := l.cursor.skip n }

/-! ## Pending keys -/

/-- Whether a pending key can no longer become one. -/
def isStale (c : Cursor) (k : PendingKey) : Bool := k.line ≠ c.line || c.index - k.index > keyReach

/-- A pending key that can still become one.  A required one must not be lost. -/
def freshKey (c : Cursor) : Option PendingKey → Except Fault (Option PendingKey)
  | none => .ok none
  | some k =>
    if !isStale c k then .ok (some k)
    else if k.required then .error .document
    else .ok none

/-- Drops the pending keys that can no longer become one. -/
def dropStale (l : Lexer) : Except Fault Lexer := do
  let pending ← freshKey l.cursor l.pending
  let outer ← l.outer.mapM (freshKey l.cursor)
  pure { l with pending, outer }

/-- Drops the pending key of the collection at hand. -/
def dropPending (l : Lexer) : Except Fault Lexer :=
  if l.pending.any (·.required) then .error .document else .ok { l with pending := none }

/-- Makes the node at hand a pending key, where one is allowed. -/
def savePending (l : Lexer) : Except Fault Lexer :=
  if l.keyAllowed then do
    let l ← l.dropPending
    let c := l.cursor
    pure { l with pending := some {
      tokens := l.count, required := !l.inFlow && l.indent = (c.column : Int)
      index := c.index, line := c.line, column := c.column } }
  else .ok l

/-! ## Blocks -/

/-- Ends the blocks that are further in than a column. -/
def unwindTo (column : Int) : List Int → Lexer → Lexer
  | [], l => l
  | outer :: indents, l =>
    if l.indent > column then
      unwindTo column indents ({ l with indent := outer, indents }.push .blockEnd)
    else l

/-- Ends the blocks that are further in than a column, outside of flow collections. -/
def unwind (column : Int) (l : Lexer) : Lexer :=
  if l.inFlow then l else unwindTo column l.indents l

/-- Whether a block would start at a column. -/
def startsBlock (column : Nat) (l : Lexer) : Bool := l.indent < (column : Int)

/-- Makes a column that of the block at hand. -/
def indentTo (column : Nat) (l : Lexer) : Lexer :=
  if l.startsBlock column then { l with indent := column, indents := l.indent :: l.indents } else l

/-- Starts a block with a token at the column at hand, if it is further in. -/
def openBlock (t : Token) (l : Lexer) : Lexer :=
  if l.startsBlock l.cursor.column then (l.indentTo l.cursor.column).push t else l

/-! ## Tokens -/

/-- Adds a token that stands on a line outside of every block, reading `n` characters. -/
def lineToken (l : Lexer) : Except Fault Lexer := do
  let l ← (l.unwind (-1)).dropPending
  pure { l with keyAllowed := false }

/-- Adds a token read from the place at hand. -/
def pushRead {α : Type} (r : Reading α) (f : α → Token) (l : Lexer) : Except Fault Lexer :=
  r.map fun (a, cursor) => { l.push (f a) with cursor }

/-- Starts a flow collection. -/
def openFlow (t : Token) (l : Lexer) : Except Fault Lexer := do
  let l ← l.savePending
  let inside := { l with outer := l.pending :: l.outer, pending := none, keyAllowed := true }
  pure ((inside.push t).move 1)

/-- Ends a flow collection. -/
def closeFlow (t : Token) (l : Lexer) : Except Fault Lexer :=
  match l.outer with
  | [] => .error .document
  | pending :: outer => do
    let l ← l.dropPending
    pure (({ l with pending, outer, keyAllowed := false }.push t).move 1)

/-- The comma between the entries of a flow collection. -/
def flowEntry (l : Lexer) : Except Fault Lexer := do
  let l ← l.dropPending
  pure (({ l with keyAllowed := true }.push .flowEntry).move 1)

/-- The dash before an entry of a block sequence. -/
def blockEntry (l : Lexer) : Except Fault Lexer := do
  if !l.inFlow && !l.keyAllowed then throw .document
  let l := if l.inFlow then l else l.openBlock .blockSequenceStart
  let l ← l.dropPending
  pure (({ l with keyAllowed := true }.push .blockEntry).move 1)

/-- The question mark before a key. -/
def explicitKey (l : Lexer) : Except Fault Lexer := do
  if !l.inFlow && !l.keyAllowed then throw .document
  let l := if l.inFlow then l else l.openBlock .blockMappingStart
  let l ← l.dropPending
  pure (({ l with keyAllowed := !l.inFlow }.push .key).move 1)

/-- The colon before a value.  If a node before it is pending, that is its key. -/
def value (l : Lexer) : Except Fault Lexer :=
  match l.pending with
  | some k =>
    let starts := !l.inFlow && l.startsBlock k.column
    let l := if starts then l.indentTo k.column else l
    let marks := ⟨k.tokens, starts⟩ :: l.marks
    .ok (({ l with marks, pending := none, keyAllowed := false }.push .value).move 1)
  | none => do
    if !l.inFlow && !l.keyAllowed then throw .document
    let l := if l.inFlow then l else l.openBlock .blockMappingStart
    pure (({ l with keyAllowed := !l.inFlow }.push .value).move 1)

/-- A node, or a property of one, that may be a key. -/
def keyable {α : Type} (r : Reading α) (f : α → Token) (l : Lexer) : Except Fault Lexer := do
  let l ← l.savePending
  { l with keyAllowed := false }.pushRead r f

/-- A scalar in a block of its own. -/
def blockScalar (folded : Bool) (l : Lexer) : Except Fault Lexer := do
  let l ← { l with keyAllowed := true }.dropPending
  l.pushRead (readBlock folded l.indent l.cursor) (.scalar · false)

/-- A plain scalar. -/
def plainScalar (l : Lexer) : Except Fault Lexer := do
  let l ← l.savePending
  let (t, e) := readPlain l.inFlow l.indent (l.cursor.rest.length + 1) [] false l.cursor
  pure { l.push (.scalar t true) with cursor := e.cursor, keyAllowed := e.lineEnded }

/-- The start or end of a document. -/
def documentMarker (t : Token) (l : Lexer) : Except Fault Lexer := do
  let l ← l.lineToken
  pure ((l.push t).move 3)

/-- Whether a plain scalar may start at the place at hand. -/
def startsPlain (inFlow : Bool) (c : Char) (after : Option Char) : Bool :=
  !(isGap c || isBreak c || "-?:,[]\x7b\x7d#&*!|>'\"%@\x60".toList.contains c)
    || (!endsWord after && (c = '-' || (!inFlow && (c = '?' || c = ':'))))

/-- Reads the token at a place that is not the end of the text. -/
def token (c : Char) (l : Lexer) : Except Fault Lexer :=
  let after := l.cursor.peekAt 1
  let lineStart := l.cursor.column = 0
  if c = '%' ∧ lineStart then do
    let l ← l.lineToken
    l.pushRead (readDirective l.cursor) .directive
  else if c = '-' ∧ lineStart ∧ l.cursor.atMarker then l.documentMarker .documentStart
  else if c = '.' ∧ lineStart ∧ l.cursor.atMarker then l.documentMarker .documentEnd
  else if c = '[' then l.openFlow .flowSequenceStart
  else if c = '{' then l.openFlow .flowMappingStart
  else if c = ']' then l.closeFlow .flowSequenceEnd
  else if c = '}' then l.closeFlow .flowMappingEnd
  else if c = ',' then l.flowEntry
  else if c = '-' ∧ endsWord after then l.blockEntry
  else if c = '?' ∧ (l.inFlow ∨ endsWord after) then l.explicitKey
  else if c = ':' ∧ (l.inFlow ∨ endsWord after) then l.value
  else if c = '*' then l.keyable (readAnchor l.cursor) .alias
  else if c = '&' then l.keyable (readAnchor l.cursor) .anchor
  else if c = '!' then l.keyable (readTag l.cursor) .tag
  else if c = '|' ∧ !l.inFlow then l.blockScalar false
  else if c = '>' ∧ !l.inFlow then l.blockScalar true
  else if c = '\'' ∨ c = '"' then l.keyable (readQuoted c l.cursor) (.scalar · false)
  else if startsPlain l.inFlow c after then l.plainScalar
  else .error .document

/-- Moves to the next token.  Outside of flow collections a new line may start with a key. -/
def skipToToken : Nat → Lexer → Lexer
  | 0, l => l
  | steps + 1, l =>
    let c := l.cursor.skipSpaces.skipComment
    match c.lineBreak? with
    | some (_, c) =>
      skipToToken steps { l with cursor := c, keyAllowed := l.keyAllowed || !l.inFlow }
    | none => { l with cursor := c }

/-- The tokens with those of the keys at their places. -/
def placed (marks : List Mark) (index : Nat) : List Token → List Token
  | [] => []
  | t :: ts =>
    let keys := (marks.filter (·.tokens = index)).flatMap fun m =>
      if m.starts then [Token.blockMappingStart, .key] else [.key]
    keys ++ t :: placed marks (index + 1) ts

/-- All tokens of a lexer. -/
def allTokens (l : Lexer) : List Token := placed l.marks 0 l.tokens.reverse

/-- The number of tokens that can be used before the next one is read: those before the first node
that is pending at the place at hand. -/
def settled (l : Lexer) : Nat :=
  let pending := ((l.pending :: l.outer).filterMap id).filter (!isStale l.cursor ·)
  pending.foldl (fun n k => min n k.tokens) l.count

/-- The tokens of a lexer up to a fault in the next one.  A node that is pending takes all tokens
after it with it, since none of them can be used before the next one is read. -/
def stopped (l : Lexer) (f : Fault) : List Token :=
  let marks := l.marks.filter (·.tokens < l.settled)
  placed marks 0 (l.tokens.reverse.take l.settled) ++ [.stop f]

/-- Reads tokens up to the end of the text or a fault. -/
def run : Nat → Lexer → List Token
  | 0, l => l.stopped .document
  | steps + 1, before =>
    let l := before.skipToToken (before.cursor.rest.length + 1)
    let next : Except Fault Lexer := do
      let l ← l.dropStale
      let l := l.unwind l.cursor.column
      match l.cursor.peek with
      | none => do
        let l ← (l.unwind (-1)).dropPending
        pure (l.push .streamEnd)
      | some c => l.token c
    match next with
    | .error f => before.stopped f
    | .ok next => if l.cursor.peek.isNone then next.allTokens else run steps next

end Lexer

/-- The tokens of a text.  The last one is the end of the text, or the fault that stopped the
reading. -/
def tokens (t : Text) : List Token :=
  let start : Cursor := { rest := t }
  if t.all isAllowed then
    Lexer.run (t.length + 1)
      { cursor := if start.peek = some '\uFEFF' then start.next else start }
  else [.stop .document]

end Retrace.Yaml
