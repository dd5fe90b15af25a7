import Retrace.Yaml.Kind
import Retrace.Yaml.Lexer

/-!
# Nodes of a document

A document is a graph of nodes: scalars, sequences and mappings, the last two with the numbers of
the nodes in them.  An anchor names a node from where it starts, so a node may hold itself.
-/

namespace Retrace.Yaml

/-- What a node holds. -/
inductive Content
  | scalar (text : Text)
  | sequence (items : List Nat)
  | mapping (pairs : List (Nat × Nat))
deriving Repr

/-- A node. -/
structure Node where
  kind : Kind
  content : Content
deriving Repr

/-- The nodes of a document, by their numbers. -/
abbrev Graph := Array Node

/-! ## Reading a document -/

/-- The state of reading a document. -/
structure Reader where
  tokens : List Token
  nodes : Graph := #[]
  anchors : List (Text × Nat) := []
  /-- What the tag handles stand for. -/
  handles : List (Text × Text) := []

namespace Reader

/-- The tag handles that every document has. -/
def defaultHandles : List (Text × Text) := [(['!'], ['!']), ("!!".toList, Kind.lead)]

/-- The next token. -/
def peek (r : Reader) : Except Fault Token :=
  match r.tokens with
  | .stop f :: _ => .error f
  | t :: _ => .ok t
  | [] => .error .document

/-- The reader after the next token. -/
def drop (r : Reader) : Reader := { r with tokens := r.tokens.tail }

/-- The reader after the next token, which must be the given one. -/
def expect (t : Token) (r : Reader) : Except Fault Reader := do
  if (← r.peek) = t then pure r.drop else throw .document

/-- Adds a node. -/
def add (node : Node) (r : Reader) : Nat × Reader :=
  (r.nodes.size, { r with nodes := r.nodes.push node })

/-- Sets what a node holds. -/
def fill (id : Nat) (content : Content) (r : Reader) : Reader :=
  { r with nodes := r.nodes.modify id fun node => { node with content } }

/-- Gives a node a name, which must be new. -/
def name (anchor : Option Text) (id : Nat) (r : Reader) : Except Fault Reader :=
  match anchor with
  | none => .ok r
  | some a =>
    if (r.anchors.lookup a).isSome then .error .document
    else .ok { r with anchors := (a, id) :: r.anchors }

/-! ## Properties -/

/-- The anchor and the tag of a node. -/
structure Properties where
  anchor : Option Text := none
  tag : Option WrittenTag := none

/-- Reads the properties of a node, in either order. -/
def readProperties (r : Reader) : Except Fault (Properties × Reader) := do
  match ← r.peek with
  | .anchor a =>
    let r := r.drop
    match ← r.peek with
    | .tag t => pure ({ anchor := some a, tag := some t }, r.drop)
    | _ => pure ({ anchor := some a }, r)
  | .tag t =>
    let r := r.drop
    match ← r.peek with
    | .anchor a => pure ({ anchor := some a, tag := some t }, r.drop)
    | _ => pure ({ tag := some t }, r)
  | _ => pure ({}, r)

/-- The tag that a written one stands for.  The tag of a lone exclamation mark counts as none. -/
def resolveTag (r : Reader) (t : WrittenTag) : Except Fault (Option Text) :=
  match t.handle with
  | none => .ok (if t.suffix = ['!'] then none else some t.suffix)
  | some h =>
    match r.handles.lookup h with
    | some lead => .ok (some (lead ++ t.suffix))
    | none => .error .document

/-- The kind of a node with a tag, or the given one without. -/
def kindOr (otherwise : Kind) : Option Text → Kind
  | some tag => Kind.ofTag tag
  | none => otherwise

/-- Adds a node with its name. -/
def addNamed (anchor : Option Text) (node : Node) (r : Reader) : Except Fault (Nat × Reader) := do
  let (id, r) := r.add node
  pure (id, ← r.name anchor id)

/-- Adds an empty scalar. -/
def addEmpty (r : Reader) : Nat × Reader := r.add { kind := .null, content := .scalar [] }

/-! ## Nodes

Each reader takes a bound on the depth of its own calls, which grows by no more than a few for
every token. -/

mutual

/-- Reads a node.  `block` says whether it may be a collection in a block of its own, and
`unindented` whether a sequence may stand at the column of the mapping around it. -/
def readNode (block unindented : Bool) : Nat → Reader → Except Fault (Nat × Reader)
  | 0, _ => .error .document
  | steps + 1, r => do
    match ← r.peek with
    | .alias a =>
      match r.anchors.lookup a with
      | some id => pure (id, r.drop)
      | none => throw .document
    | _ =>
      let (p, r) ← r.readProperties
      let tag ← match p.tag with
        | some t => r.resolveTag t
        | none => pure none
      let sequence (r : Reader) : Except Fault (Nat × Reader) :=
        r.addNamed p.anchor { kind := kindOr .sequence tag, content := .sequence [] }
      let mapping (r : Reader) : Except Fault (Nat × Reader) :=
        r.addNamed p.anchor { kind := kindOr .mapping tag, content := .mapping [] }
      match ← r.peek with
      | .scalar text plain =>
        let kind := if plain || p.tag.isSome then Kind.ofPlain text else .text
        r.drop.addNamed p.anchor { kind := kindOr kind tag, content := .scalar text }
      | .blockEntry =>
        if unindented then do
          let (id, r) ← sequence r
          let (items, r) ← readUnindented steps r
          pure (id, r.fill id (.sequence items))
        else if p.anchor.isSome || p.tag.isSome then
          r.addNamed p.anchor { kind := kindOr .null tag, content := .scalar [] }
        else throw .document
      | .flowSequenceStart => do
        let (id, r) ← sequence r.drop
        let (items, r) ← readFlowItems true steps r
        pure (id, r.fill id (.sequence items))
      | .flowMappingStart => do
        let (id, r) ← mapping r.drop
        let (pairs, r) ← readFlowPairs true steps r
        pure (id, r.fill id (.mapping pairs))
      | t =>
        if block && t = .blockSequenceStart then do
          let (id, r) ← sequence r.drop
          let (items, r) ← readBlockItems steps r
          pure (id, r.fill id (.sequence items))
        else if block && t = .blockMappingStart then do
          let (id, r) ← mapping r.drop
          let (pairs, r) ← readBlockPairs steps r
          pure (id, r.fill id (.mapping pairs))
        else if p.anchor.isSome || p.tag.isSome then
          r.addNamed p.anchor { kind := kindOr .null tag, content := .scalar [] }
        else throw .document

/-- Reads a node, or an empty scalar before one of some tokens. -/
def readNodeOrEmpty (block unindented : Bool) (ends : List Token) :
    Nat → Reader → Except Fault (Nat × Reader)
  | 0, _ => .error .document
  | steps + 1, r => do
    if ends.contains (← r.peek) then pure r.addEmpty else readNode block unindented steps r

/-- Reads the entries of a block sequence and its end. -/
def readBlockItems : Nat → Reader → Except Fault (List Nat × Reader)
  | 0, _ => .error .document
  | steps + 1, r => do
    match ← r.peek with
    | .blockEntry =>
      let (item, r) ← readNodeOrEmpty true false [.blockEntry, .blockEnd] steps r.drop
      let (items, r) ← readBlockItems steps r
      pure (item :: items, r)
    | .blockEnd => pure ([], r.drop)
    | _ => throw .document

/-- Reads the entries of a sequence that stands at the column of the mapping around it. -/
def readUnindented : Nat → Reader → Except Fault (List Nat × Reader)
  | 0, _ => .error .document
  | steps + 1, r => do
    match ← r.peek with
    | .blockEntry =>
      let (item, r) ←
        readNodeOrEmpty true false [.blockEntry, .key, .value, .blockEnd] steps r.drop
      let (items, r) ← readUnindented steps r
      pure (item :: items, r)
    | _ => pure ([], r)

/-- Reads the value after a key, which is empty without a colon. -/
def readValue (block : Bool) (ends : List Token) : Nat → Reader → Except Fault (Nat × Reader)
  | 0, _ => .error .document
  | steps + 1, r => do
    match ← r.peek with
    | .value => readNodeOrEmpty block block ends steps r.drop
    | _ => pure r.addEmpty

/-- Reads the pairs of a block mapping and its end. -/
def readBlockPairs : Nat → Reader → Except Fault (List (Nat × Nat) × Reader)
  | 0, _ => .error .document
  | steps + 1, r => do
    match ← r.peek with
    | .key =>
      let (key, r) ← readNodeOrEmpty true true [.key, .value, .blockEnd] steps r.drop
      let (value, r) ← readValue true [.key, .value, .blockEnd] steps r
      let (pairs, r) ← readBlockPairs steps r
      pure ((key, value) :: pairs, r)
    | .blockEnd => pure ([], r.drop)
    | _ => throw .document

/-- Reads the entries of a flow sequence and its end.  `first` says whether none came before. -/
def readFlowItems (first : Bool) : Nat → Reader → Except Fault (List Nat × Reader)
  | 0, _ => .error .document
  | steps + 1, r => do
    match ← r.peek with
    | .flowSequenceEnd => pure ([], r.drop)
    | _ =>
      let r ← if first then pure r else r.expect .flowEntry
      match ← r.peek with
      | .flowSequenceEnd => pure ([], r.drop)
      | .key =>
        let ends := [Token.value, .flowEntry, .flowSequenceEnd]
        let (id, r) := r.drop.add { kind := .mapping, content := .mapping [] }
        let (key, r) ← readNodeOrEmpty false false ends steps r
        let (value, r) ← readValue false [.flowEntry, .flowSequenceEnd] steps r
        let (items, r) ← readFlowItems false steps (r.fill id (.mapping [(key, value)]))
        pure (id :: items, r)
      | _ =>
        let (item, r) ← readNode false false steps r
        let (items, r) ← readFlowItems false steps r
        pure (item :: items, r)

/-- Reads the pairs of a flow mapping and its end.  `first` says whether none came before. -/
def readFlowPairs (first : Bool) : Nat → Reader → Except Fault (List (Nat × Nat) × Reader)
  | 0, _ => .error .document
  | steps + 1, r => do
    match ← r.peek with
    | .flowMappingEnd => pure ([], r.drop)
    | _ =>
      let r ← if first then pure r else r.expect .flowEntry
      match ← r.peek with
      | .flowMappingEnd => pure ([], r.drop)
      | .key =>
        let (key, r) ←
          readNodeOrEmpty false false [.value, .flowEntry, .flowMappingEnd] steps r.drop
        let (value, r) ← readValue false [.flowEntry, .flowMappingEnd] steps r
        let (pairs, r) ← readFlowPairs false steps r
        pure ((key, value) :: pairs, r)
      | _ =>
        let (key, r) ← readNode false false steps r
        let (value, r) := r.addEmpty
        let (pairs, r) ← readFlowPairs false steps r
        pure ((key, value) :: pairs, r)

end

/-! ## Documents -/

/-- Reads the directives before a document, where `version` says whether there was one for the
version. -/
def readDirectives (version : Bool) (handles : List (Text × Text)) :
    List Token → Except Fault (List (Text × Text) × List Token)
  | .directive (.version major _) :: tokens =>
    if version || major ≠ 1 then .error .document else readDirectives true handles tokens
  | .directive (.tagHandle handle lead) :: tokens =>
    if (handles.lookup handle).isSome then .error .document
    else readDirectives version ((handle, lead) :: handles) tokens
  | .directive .unknown :: tokens => readDirectives version handles tokens
  | tokens => .ok (handles ++ defaultHandles, tokens)

/-- The reader after the marks that end documents. -/
def dropEnds (r : Reader) : Reader :=
  { r with tokens := r.tokens.dropWhile (· = .documentEnd) }

/-- Reads the node of a document. -/
def readRoot (r : Reader) : Except Fault (Nat × Reader) := do
  -- Between two tokens the calls go no deeper than three levels.
  let steps := 4 * r.tokens.length + 8
  match ← r.peek with
  | .directive _ | .documentStart =>
    let (handles, tokens) ← readDirectives false [] r.tokens
    let r ← { r with handles, tokens }.expect .documentStart
    match ← r.peek with
    | .directive _ | .documentStart | .documentEnd | .streamEnd => pure r.addEmpty
    | _ => readNode true false steps r
  | _ => readNode true false steps { r with handles := defaultHandles }

/-- Reads the only document of a text: its nodes and the number of the first one, or nothing for
an empty text. -/
def readDocument (r : Reader) : Except Fault (Option (Graph × Nat)) := do
  match ← r.peek with
  | .streamEnd => pure none
  | _ =>
    let (root, r) ← r.readRoot
    let r := r.dropEnds
    if (← r.peek) = .streamEnd then pure (some (r.nodes, root))
    else do
      -- Another document is a fault, but only once its start has been read.
      let (_, tokens) ← readDirectives false [] r.tokens
      let _ ← { r with tokens }.peek
      throw .document

end Reader

/-- The nodes of a document. -/
def compose (t : Text) : Except Fault (Option (Graph × Nat)) :=
  Reader.readDocument { tokens := tokens t }

end Retrace.Yaml
