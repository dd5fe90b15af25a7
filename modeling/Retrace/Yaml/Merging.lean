import Retrace.Yaml.Node

/-!
# Merging mappings

A pair of a mapping may have a key that says to merge its value, a mapping or a sequence of such,
into the mapping.  `Graph.merge` carries that out in the nodes themselves: the pair goes away, and
the pairs of the value come before those of the mapping.  A value is merged in itself first, and a
pair is taken away before its value is looked at, so a mapping that is to be merged into itself
comes to an end with what it has by then.
-/

namespace Retrace.Yaml

namespace Graph

/-- Whether a node is of a kind. -/
def isOfKind (g : Graph) (kind : Kind) (id : Nat) : Bool :=
  match g[id]? with
  | some node => node.kind = kind
  | none => false

/-- What a node holds. -/
def content? (g : Graph) (id : Nat) : Option Content :=
  match g[id]? with
  | some node => some node.content
  | none => none

/-- Sets the pairs of a node. -/
def setPairs (id : Nat) (pairs : List (Nat × Nat)) (g : Graph) : Graph :=
  g.modify id fun node => { node with content := .mapping pairs }

/-- Makes keys texts that would stand for their mappings. -/
def plainKeys (pairs : List (Nat × Nat)) (g : Graph) : Graph :=
  pairs.foldl (fun g (key, _) =>
    if g.isOfKind .default key then g.modify key fun node => { node with kind := .text } else g) g

/-- Whether the value of a pair is to be merged. -/
def isMerge (g : Graph) (pair : Nat × Nat) : Bool := g.isOfKind .merge pair.1

/-- The number of pairs that are to be merged. -/
def mergeCount (g : Graph) : Nat :=
  g.toList.foldl (fun n node =>
    match node.content with
    | .mapping pairs => n + (pairs.filter g.isMerge).length
    | _ => n) 0

/-- Merges into a mapping what its pairs say, after `merged`, and gives its pairs.  The first
argument bounds the number of pairs to be merged: each call takes one away. -/
def mergeFrom : Nat → Nat → List (Nat × Nat) → Graph → Except Fault (List (Nat × Nat) × Graph)
  | 0, _, _, _ => .error .endless
  | steps + 1, id, merged, g =>
    match g.content? id with
    | some (.mapping pairs) =>
      match pairs.find? g.isMerge with
      | none =>
        let g := g.plainKeys pairs
        let pairs := merged ++ pairs
        .ok (pairs, g.setPairs id pairs)
      | some (_, value) => do
        let g := g.setPairs id (pairs.eraseP g.isMerge)
        let (more, g) ← match g.content? value with
          | some (.sequence items) => do
            -- What comes first in the sequence counts most, so it comes last.
            let (parts, g) ← items.foldlM (fun (parts, g) item => do
              let (part, g) ← mergeFrom steps item [] g
              pure (part :: parts, g)) (([], g) : List (List (Nat × Nat)) × Graph)
            pure (parts.flatten, g)
          | _ => mergeFrom steps value [] g
        mergeFrom steps id (merged ++ more) g
    | _ => .error .document

/-- Merges into a mapping what its pairs say, and gives its pairs. -/
def merge (g : Graph) (id : Nat) : Except Fault (List (Nat × Nat) × Graph) :=
  mergeFrom (g.mergeCount + 1) id [] g

end Graph

end Retrace.Yaml
