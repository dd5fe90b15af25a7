import Retrace.Yaml.Value

/-!
# The value of a document

The nodes of a document are turned into values one after another, each of them once.  A collection
is empty at first and waits for its turn to be filled, so a node may hold itself, and what a node
comes to may depend on the turn it has: filling a mapping merges others into it, and changes nodes
for those that come later.  `Construction.tree` gives the value as a tree down to a given depth.
-/

namespace Retrace.Yaml

/-- What has been made of a node. -/
inductive Made
  /-- A value that holds no others. -/
  | leaf (v : Value)
  /-- A collection that waits for its turn. -/
  | empty
  | list (items : List Nat)
  /-- A list of a number of pairs. -/
  | pairs (count : Nat)
  | set (members : List Nat)
  | mapping (pairs : List (Nat × Nat))
deriving Repr

/-- The state of turning nodes into values. -/
structure Construction where
  nodes : Graph
  /-- What has been made of the nodes so far, by their numbers. -/
  made : Array (Option Made)
  /-- The collections that wait for their turn. -/
  waiting : List Nat := []

namespace Construction

/-- What has been made of a node. -/
def made? (c : Construction) (id : Nat) : Option Made := (c.made[id]?).join

/-- Sets what has been made of a node. -/
def make (id : Nat) (m : Made) (c : Construction) : Construction :=
  { c with made := c.made.setIfInBounds id (some m) }

/-- Makes something of a node, unless that has been done. -/
def reach (c : Construction) (id : Nat) : Except Fault Construction :=
  match c.made? id, c.nodes[id]? with
  | some _, _ => .ok c
  | none, none => .error .document
  | none, some node =>
    if node.kind.isCollection then
      .ok { c.make id .empty with waiting := c.waiting ++ [id] }
    else (c.nodes.leaf node id).map fun v => c.make id (.leaf v)

/-- Makes something of a key, which must be no collection. -/
def reachKey (c : Construction) (id : Nat) : Except Fault Construction := do
  let c ← c.reach id
  match c.made? id with
  | some (.leaf _) => pure c
  | _ => throw .document

/-- Makes something of the keys and values of a mapping, after merging others into it. -/
def reachPairs (c : Construction) (id : Nat) :
    Except Fault (List (Nat × Nat) × Construction) := do
  let (pairs, nodes) ← c.nodes.merge id
  let c ← pairs.foldlM (fun c (key, value) => do (← c.reachKey key).reach value) { c with nodes }
  pure (pairs, c)

/-- Makes something of the key and the value of the only pair of a node. -/
def reachOnlyPair (c : Construction) (id : Nat) : Except Fault Construction :=
  match c.nodes.content? id with
  | some (.mapping [(key, value)]) => do (← c.reach key).reach value
  | _ => .error .document

/-- Fills a collection. -/
def fill (c : Construction) (id : Nat) : Except Fault Construction :=
  match c.nodes[id]? with
  | none => .error .document
  | some node =>
    match node.kind, node.content with
    | .sequence, .sequence items => do
      let c ← items.foldlM reach c
      pure (c.make id (.list items))
    | .pairs, .sequence items => do
      let c ← items.foldlM reachOnlyPair c
      pure (c.make id (.pairs items.length))
    | .set, .mapping _ => do
      let (pairs, c) ← c.reachPairs id
      pure (c.make id (.set (pairs.map (·.1))))
    | .mapping, .mapping _ => do
      let (pairs, c) ← c.reachPairs id
      pure (c.make id (.mapping pairs))
    | _, _ => .error .document

/-- Fills the collections that wait, in order.  The first argument bounds their number: every node
waits once. -/
def fillAll : Nat → Construction → Except Fault Construction
  | 0, c => .ok c
  | steps + 1, c =>
    match c.waiting with
    | [] => .ok c
    | id :: waiting => do fillAll steps (← fill { c with waiting } id)

/-- Turns all nodes that a node holds into values. -/
def run (g : Graph) (root : Nat) : Except Fault Construction := do
  let start : Construction := { nodes := g, made := Array.replicate g.size none }
  fillAll (g.size + 1) (← start.reach root)

/-! ## Values -/

/-- Adds a pair to a mapping. -/
def addPair (key value : Value) : List (Text × Value) × Bool → List (Text × Value) × Bool
  | (fields, otherKeys) =>
    match key with
    | .text t => (Json.setField t value fields, otherKeys)
    | _ => (fields, true)

/-- The value of a node as a tree of a depth. -/
def tree (c : Construction) : Nat → Nat → Value
  | 0, _ => .other true
  | depth + 1, id =>
    match c.made? id with
    | none | some .empty => .null
    | some (.leaf v) => v
    | some (.list items) => .list (items.map (c.tree depth))
    | some (.pairs count) => .list (List.replicate count (.other true))
    | some (.set members) => .other !members.isEmpty
    | some (.mapping pairs) =>
      let (fields, otherKeys) := pairs.foldl (fun m (key, value) =>
        match c.made? key with
        | some (.leaf k) => addPair k (c.tree depth value) m
        | _ => m) ([], false)
      .mapping fields otherKeys

end Construction

/-- The value of a text as a tree of a depth; that of an empty text is null. -/
def load (depth : Nat) (t : Text) : Except Fault Value := do
  match ← compose t with
  | none => pure .null
  | some (g, root) => do
    let c ← Construction.run g root
    pure (c.tree depth root)

end Retrace.Yaml
