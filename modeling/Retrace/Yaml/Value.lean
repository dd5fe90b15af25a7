import Retrace.Base64
import Retrace.Json.Basic
import Retrace.Yaml.Merging

/-!
# Values

A node of a document is turned into a value of its kind.  `Graph.leaf` gives the value of a node
that holds no other values.
-/

namespace Retrace.Yaml

/-- A value. -/
inductive Value
  | null
  | bool (b : Bool)
  | int (n : Int)
  | real (r : Binary64)
  | text (t : Text)
  | bytes (bs : List UInt8)
  | list (items : List Value)
  /-- The fields of a mapping whose keys are texts, and whether it has other keys too. -/
  | mapping (fields : List (Text × Value)) (otherKeys : Bool)
  /-- A value of another kind, or one below the depth, and whether it holds anything. -/
  | other (holds : Bool)
deriving Inhabited, Repr

/-- Whether a value counts as something: not null, false, zero, or empty. -/
def Value.isSomething : Value → Bool
  | .null => false
  | .bool b => b
  | .int n => n ≠ 0
  | .real r => !r.isWhole 0
  | .text t => !t.isEmpty
  | .bytes bs => !bs.isEmpty
  | .list items => !items.isEmpty
  | .mapping fields otherKeys => otherKeys || !fields.isEmpty
  | .other holds => holds

/-! ## Scalars -/

/-- Whether values of a kind hold other values. -/
def Kind.isCollection : Kind → Bool
  | .sequence | .mapping | .set | .pairs => true
  | _ => false

namespace Graph

/-- The text of a scalar, or of the value that stands for a mapping. -/
def textOf (g : Graph) : Nat → Nat → Except Fault Text
  | 0, _ => .error .endless
  | steps + 1, id =>
    match g.content? id with
    | some (.scalar t) => .ok t
    | some (.mapping pairs) =>
      match pairs.find? fun (key, _) => g.isOfKind .default key with
      | some (_, value) => g.textOf steps value
      | none => .error .document
    | _ => .error .document

/-- The moment of a node. -/
def momentOf (content : Content) (t : Text) : Except Fault Value :=
  match content with
  | .scalar _ =>
    match Moment.parse? t with
    | none => .error .noMoment
    | some m =>
      match m.fault? with
      | some message => .error (.calendar message)
      | none => .ok (.other true)
  | _ => .error .momentKind

/-- The value of a node that is no collection. -/
def leaf (g : Graph) (node : Node) (id : Nat) : Except Fault Value := do
  let text := g.textOf (g.size + 1) id
  match node.kind with
  | .null => text.map fun _ => .null
  | .truth =>
    match Kind.truthWords.lookup (Text.lower (← text)) with
    | some b => pure (.bool b)
    | none => throw .noTruth
  | .integer => .int <$> readInteger (← text)
  | .real => .real <$> readReal (← text)
  | .binary =>
    let t ← text
    match (if t.all (·.toNat < 128) then Base64.decode t else none) with
    | some bs => pure (.bytes bs)
    | none => throw .document
  | .moment => momentOf node.content (← text)
  | .text => .text <$> text
  | _ => throw .document

end Graph

end Retrace.Yaml
