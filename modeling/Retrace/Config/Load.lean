import Retrace.Config.Further
import Retrace.Config.Schema

/-!
# Loading a configuration

A configuration is loaded from a file, if one is named, over the environment.  The text of the file
has its line ends unified and its references to variables replaced before it is read.  Its document
may have rules about how the environment is read.
-/

namespace Retrace.Config

open Yaml (Value)

/-- Why a configuration is not loaded. -/
inductive Fault
  /-- There is no file at the path. -/
  | missing (path : Text)
  | file (path : Text) (f : FileFault)
  | encoding (f : Utf8.Fault)
  /-- A variable that the file refers to is not set. -/
  | unset (name : Text)
  | yaml (f : Yaml.Fault)
  /-- A key of the document is no text. -/
  | keyKind
  /-- A rule of the document has a value of a kind that it cannot have. -/
  | ruleKind
  | problems (ps : List Problem)
  /-- The variable of a section holds no JSON, and no file is there to be checked. -/
  | sectionVariable (name : Text)
  | conflict (c : Conflict)
  /-- There is no encoding of the name that a rule of the document gives. -/
  | noEncoding (name : Text)
  /-- The home of a user that a path starts with is not known. -/
  | homeless
  /-- The words of the document end the program. -/
  | ended (f : Farewell)
  /-- The words of the document cannot be read at all. -/
  | broken
deriving DecidableEq, Repr

/-- The wording of a fault, where it is fixed. -/
def Fault.message? : Fault → Option Text
  | .missing path => some ("Configuration file not found: ".toList ++ path)
  | .file path f => some (f.message path)
  | .encoding f => some f.message
  | .unset name => some ("Environment variable ".toList ++ name ++ " not found".toList)
  | .yaml f => f.message?
  | .sectionVariable name =>
    some ("error parsing value for field \"".toList ++ name
      ++ "\" from source \"EnvSettingsSource\"".toList)
  | .conflict c => some c.message
  | .noEncoding name => some ("unknown encoding: ".toList ++ name)
  | .homeless => some "Could not determine home directory.".toList
  | .keyKind | .ruleKind | .problems _ | .ended _ | .broken => none

/-- A configuration whose settings go together. -/
def checkConflict (c : Config) : Except Fault Config :=
  match c.conflict? with
  | some conflict => .error (.conflict conflict)
  | none => .ok c

/-- The variables of an environment, as named with their texts. -/
def named (env : Environment) : List (Text × Option Text) :=
  env.map fun (name, value) => (name, some value)

/-- The configuration of the environment alone. -/
def ofEnvironment (env : Environment) : Except Fault Config :=
  let r : Rules := {}
  match variableLayer r (r.variablesOf (named env)) sections with
  | .error (name, _) => .error (.sectionVariable name)
  | .ok layer =>
    match readLayer layer [] with
    | .error ps => .error (.problems ps)
    | .ok c => checkConflict c

/-- The problem of a document as a whole, such as that what its rules name cannot be used or that
the variable of a section holds no JSON. -/
def refusedWhole : Fault := .problems [⟨[], .refused⟩]

/-- The fault of a document whose rules name files that cannot be used. -/
def FurtherFileFault.fault : FurtherFileFault → Fault
  | .tooLong path => .file path .nameTooLong
  | .kind => .ruleKind
  | .noEncoding name => .noEncoding name
  | .homeless => .homeless
  | .zeroInName | .encoding | .noDirectory => refusedWhole

/-- The fault of a document when what is around it cannot be used. -/
def FurtherFault.fault : FurtherFault → Fault
  | .files f => f.fault
  | .ended f => .ended f
  | .broken => .broken
  | .layer .uncut => .ruleKind
  | .words | .lead | .layer .noJson | .unread => refusedWhole

/-- The configuration of the fields of a document with what is around it. -/
def ofAround (a : Around) (fields : Fields) : Except Fault Config :=
  let (layer, strays) := documentLayer (sections.map (·.name)) fields
  match readLayer (a.join layer) (a.strays ++ strays.filter (!a.strays.contains ·)) with
  | .error ps => .error (.problems ps)
  | .ok c => checkConflict c

/-- The fields of a document under the keys of rules. -/
def ruleFields (fields : Fields) : Fields := fields.filter fun field => Rules.isKey field.1

/-- The configuration of the fields of a document under rules. -/
def ofRules (host : Host) (tree : FileTree) (env : Environment) (r : Rules) (fields : Fields) :
    Except Fault Config :=
  match around host tree env r (ruleFields fields) (r.variablesOf (named env)) sections with
  | .error f => .error f.fault
  | .ok a => ofAround a (fields.filter fun field => !Rules.isKey field.1)

/-- The configuration of the fields of a document. -/
def ofFields (host : Host) (tree : FileTree) (env : Environment) (fields : Fields) :
    Except Fault Config :=
  match Rules.ofFields? fields with
  | none => .error .ruleKind
  | some r => ofRules host tree env r fields

/-- The configuration of a document.  A document that holds nothing sets nothing. -/
def ofDocument (host : Host) (tree : FileTree) (env : Environment) (v : Value) :
    Except Fault Config :=
  if !v.isSomething then ofFields host tree env []
  else
    match v with
    | .mapping fields otherKeys =>
      if otherKeys then .error .keyKind else ofFields host tree env fields
    | _ => .error (.problems [⟨[], .noMapping⟩])

/-- How deep a document is looked into: the whole, its sections, and their keys. -/
def documentDepth : Nat := 3

/-- The document of a text. -/
def readDocument (env : Environment) (t : Text) : Except Fault Value :=
  match env.substitute (Text.unifyLineEnds t) with
  | .error name => .error (.unset name)
  | .ok t => (Yaml.load documentDepth t).mapError .yaml

/-- The document of the file at a path. -/
def documentAt (tree : FileTree) (env : Environment) (path : Text) : Except Fault Value :=
  let path := FilePath.normalize path
  match tree.read path with
  | .error .notFound | .error .notDirectory | .error .zeroInPath => .error (.missing path)
  | .error f => .error (.file path f)
  | .ok bytes =>
    match Utf8.decode bytes with
    | .error f => .error (.encoding f)
    | .ok t => readDocument env t

/-- The configuration of a file, if one is named, over the environment. -/
def load (host : Host) (tree : FileTree) (env : Environment) : Option Text → Except Fault Config
  | none => ofEnvironment env
  | some path => (documentAt tree env path).bind (ofDocument host tree env)

/-- The rules of the file at a path, if it has any that can be followed. -/
def rulesAt (tree : FileTree) (env : Environment) (path : Text) : Rules :=
  match documentAt tree env path with
  | .ok (.mapping fields _) => (Rules.ofFields? fields).getD {}
  | _ => {}

end Retrace.Config
