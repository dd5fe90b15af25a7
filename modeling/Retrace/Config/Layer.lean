import Retrace.Config.Rules
import Retrace.Json.Parser

/-!
# Layers of settings

Settings come from a document and from variables.  A layer is a mapping of sections, and one layer
lies over another key by key, mappings within mappings.

A variable named for a section holds JSON, and one with the names of a section and a key, and what
the rules want between them, sets that key; a longer path goes further in.
-/

namespace Retrace.Config

open Yaml (Value)

mutual

/-- A value over another one: a mapping over a mapping key by key, anything else in its place. -/
def valueOver (under : Value) : Value → Value
  | .mapping fields otherKeys =>
    match under with
    | .mapping underFields underOther =>
      .mapping (fieldsOver underFields fields) (underOther || otherKeys)
    | _ => .mapping fields otherKeys
  | v => v

/-- Fields over others, key by key. -/
def fieldsOver (under : Fields) : Fields → Fields
  | [] => under
  | (key, v) :: fields =>
    let v := match Json.field? key under with
      | some w => valueOver w v
      | none => v
    fieldsOver (Json.setField key v under) fields

end

mutual

/-- A JSON value as a setting. -/
def ofJson : Json → Value
  | .null => .null
  | .bool b => .bool b
  | .int n => .int n
  | .real r => .real r
  | .text t => .text t
  | .list items => .list (ofJsonItems items)
  | .object fields => .mapping (ofJsonFields fields) false

/-- The items of a JSON list as settings. -/
def ofJsonItems : List Json → List Value
  | [] => []
  | v :: items => ofJson v :: ofJsonItems items

/-- The fields of a JSON object as settings. -/
def ofJsonFields : List (Text × Json) → Fields
  | [] => []
  | (key, v) :: fields => (key, ofJson v) :: ofJsonFields fields

end

/-! ## Variables -/

/-- Whether a key may be set to null: not if it holds something already. -/
def allowsNull (key : Text) (fields : Fields) : Bool :=
  match Json.field? key fields with
  | none | some (.mapping [] false) => true
  | some _ => false

/-- Sets what a variable says for a key. -/
def setKey (said : Said) (key : Text) (fields : Fields) : Fields :=
  match said with
  | .text t => Json.setField key (.text t) fields
  | .nothing => Json.setField key .null fields
  | .null => if allowsNull key fields then Json.setField key .null fields else fields

/-- Sets what a variable says at the end of a path of keys.  A key that holds no mapping keeps what
it holds against a path through it. -/
def setPath (said : Said) : List Text → Fields → Fields
  | [], fields => fields
  | [key], fields => setKey said key fields
  | key :: path, fields =>
    match Json.field? key fields with
    | some (.mapping inner otherKeys) =>
      Json.setField key (.mapping (setPath said path inner) otherKeys) fields
    | some _ => fields
    | none => Json.setField key (.mapping (setPath said path []) false) fields

/-- Fields with the keys of a section, in whatever case, as the section names them. -/
def renameKeys (keys : List Text) (fields : Fields) : Fields :=
  fields.foldl (fun renamed (key, v) =>
    let name := (keys.find? (· = Text.lower key)).getD key
    Json.setField name v renamed) []

/-- A section and the names of its keys. -/
structure SectionNames where
  name : Text
  keys : List Text
deriving Repr

namespace Rules

/-- The keys that what follows the name of a section in the name of a variable is cut into. -/
def path (r : Rules) (t : Text) : List Text :=
  let keys := Text.splitOn r.nesting t
  match r.cuts with
  | some n =>
    if keys.length ≤ n then keys else keys.take n ++ [Text.join r.nesting (keys.drop n)]
  | none => keys

/-- The keys of a section that variables set one by one. -/
def nestedFields (r : Rules) (vars : Variables) (name : Text) : Fields :=
  if r.nesting.isEmpty then []
  else
    vars.foldl (fun fields (var, said) =>
      match Text.dropLead? (r.sectionVariable name ++ r.nesting) var with
      | some t => setPath said (r.path t) fields
      | none => fields) []

/-- A section with some fields, under the keys of the section. -/
def named (r : Rules) (s : SectionNames) (fields : Fields) : Value :=
  .mapping (if r.caseMatters then fields else renameKeys s.keys fields) false

/-- The section that a text sets as JSON, with the fields that are set one by one over it.  The
error is that the text is no JSON. -/
def ofText (r : Rules) (s : SectionNames) (t : Text) (upper : Fields) :
    Except Unit (Option Value) :=
  match Json.parse t with
  | .error _ => .error ()
  | .ok .null => .ok none
  | .ok (.object fields) => .ok (some (r.named s (fieldsOver (ofJsonFields fields) upper)))
  | .ok v => .ok (some (ofJson v))

/-- A section as variables set it.  The error is that the variable for the section holds no JSON. -/
def ofVariables (r : Rules) (vars : Variables) (s : SectionNames) :
    Except Unit (Option Value) :=
  let upper := r.nestedFields vars s.name
  match Json.field? (r.sectionVariable s.name) vars with
  | some (.text t) => r.ofText s t upper
  | some .null => .ok (some .null)
  | none | some .nothing => .ok (if upper.isEmpty then none else some (r.named s upper))

end Rules

/-- Why variables cannot set a section. -/
inductive SectionFault
  /-- The text for the section is no JSON. -/
  | noJson
  /-- The name of a variable for a key cannot be cut. -/
  | uncut
deriving DecidableEq, Repr

namespace Rules

/-- Whether variables may set a section key by key: the variable for the section holds a JSON object
or nothing. -/
def isOpen (r : Rules) (vars : Variables) (s : SectionNames) : Bool :=
  match Json.field? (r.sectionVariable s.name) vars with
  | some (.text t) =>
    match Json.parse t with
    | .ok (.object _) => true
    | _ => false
  | some .null => false
  | none | some .nothing => true

/-- Whether the name of a variable for a key of a section is met that cannot be cut. -/
def meetsUncut (r : Rules) (vars : Variables) (s : SectionNames) : Bool :=
  r.strangeNesting.any fun nesting =>
    r.isOpen vars s && vars.any fun (var, _) =>
      Text.startsWith (r.sectionVariable s.name ++ nesting) var

/-- Reads a section from variables. -/
def readSection (r : Rules) (vars : Variables) (s : SectionNames) :
    Except SectionFault (Option Value) :=
  if r.meetsUncut vars s then .error .uncut
  else (r.ofVariables vars s).mapError fun _ => .noJson

end Rules

/-- A layer of sections, or the name of the first section that cannot be set. -/
def layerOf (read : SectionNames → Except SectionFault (Option Value)) :
    List SectionNames → Except (Text × SectionFault) Fields
  | [] => .ok []
  | s :: sections =>
    match read s with
    | .error f => .error (s.name, f)
    | .ok v =>
      match layerOf read sections with
      | .error e => .error e
      | .ok fields => .ok ((v.map fun v => (s.name, v)).toList ++ fields)

/-- The layer of variables. -/
def variableLayer (r : Rules) (vars : Variables) (sections : List SectionNames) :
    Except (Text × SectionFault) Fields :=
  layerOf (r.readSection vars) sections

/-- The names of variables that a file of variables may not have: those that say something and are
for no section. -/
def strayVariables (r : Rules) (names : List Text) (layer : Fields) (vars : Variables) :
    List Text :=
  vars.filterMap fun (var, said) =>
    let isEmpty := match said with
      | .text t => t.isEmpty
      | .null => r.nullText = some []
      | .nothing => true
    let isUsed := names.any fun name => Text.startsWith (r.sectionVariable name) var
    let isKnown := (Json.field? var layer).isSome || (!r.lead.isEmpty && names.contains var)
    if isEmpty || isUsed || isKnown then none else some var

/-! ## Documents -/

/-- The layer of a document: its sections, each under the first key that names it in any case, and
the keys that name none, in order. -/
def documentLayer (names : List Text) : Fields → Fields × List Text
  | [] => ([], [])
  | (key, v) :: fields =>
    let (layer, strays) := documentLayer names fields
    match names.find? (· = Text.lower key) with
    | some name => ((name, v) :: layer.filter (·.1 ≠ name), strays)
    | none => (layer, key :: strays)

end Retrace.Config
