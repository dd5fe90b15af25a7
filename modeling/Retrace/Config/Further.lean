import Retrace.Config.Host
import Retrace.Config.Layer
import Retrace.Config.VariableFile
import Retrace.FileTree

/-!
# Settings from around a document

A document lies over the variables of the environment.  Its rules may name files with more variables
and directories in which a file that is named like the variable for a section holds JSON for it; a
file or directory that is not there sets nothing.  They may also have words like those of a command
line, which set more than the document does.  `around` gives what is set by all of these.
-/

namespace Retrace.Config

open Yaml (Value)

/-- Why files and directories cannot be used. -/
inductive FurtherFileFault
  /-- A path is too long to be looked at. -/
  | tooLong (path : Text)
  /-- A path or the name of an encoding is of a kind that it cannot have. -/
  | kind
  /-- There is no encoding of a name. -/
  | noEncoding (name : Text)
  /-- The home of a user is not known. -/
  | homeless
  /-- The name of a user or of an encoding holds the character of code zero. -/
  | zeroInName
  /-- A file is not in its encoding. -/
  | encoding
  /-- The path of a directory leads to a file. -/
  | noDirectory
deriving DecidableEq, Repr

/-- Why what is around a document cannot be used. -/
inductive FurtherFault
  | files (f : FurtherFileFault)
  /-- Words end the program. -/
  | ended (f : Farewell)
  /-- Words cannot be read at all. -/
  | broken
  /-- Words are refused. -/
  | words
  /-- No name can be put together from what names start with. -/
  | lead
  /-- Variables cannot set a section. -/
  | layer (f : SectionFault)
  /-- The file for a section cannot be read, or holds no JSON. -/
  | unread
deriving DecidableEq, Repr

/-! ## Paths -/

/-- The home of a user, or of the program's own if the name is empty. -/
def homeOf? (host : Host) (env : Environment) (user : Text) : Option Text :=
  let home := match user, env.get? "HOME".toList with
    | [], some home => some home
    | _, _ => host.home? user
  home.map fun home =>
    match (home.reverse.dropWhile (· = '/')).reverse with
    | [] => ['/']
    | home => home

/-- The path of what is at another path from a directory. -/
def pathUnder (directory path : Text) : Text :=
  let lead := if directory.getLast? = some '/' then directory else directory ++ ['/']
  FilePath.normalize (lead ++ path)

/-- A path with a name of a user at its start, after a tilde, replaced by the user's home. -/
def expandHome (host : Host) (env : Environment) (path : Text) : Except FurtherFileFault Text :=
  let path := FilePath.normalize path
  match path.takeWhile (· ≠ '/'), path.dropWhile (· ≠ '/') with
  | '~' :: user, rest =>
    if '\x00' ∈ user then .error .zeroInName
    else
      match homeOf? host env user with
      | none | some ('~' :: _) => .error .homeless
      | some home => .ok (pathUnder home (rest.drop 1))
  | _, _ => .ok path

/-- A path with the home of a user put in, if it is a path. -/
def readPath (host : Host) (env : Environment) : Option Text → Except FurtherFileFault Text
  | none => .error .kind
  | some path => expandHome host env path

/-- What stands at a path, if anything does. -/
def furtherItem? (tree : FileTree) (path : Text) : Except FurtherFileFault (Option FileItem) :=
  match tree.find path with
  | .ok item => .ok (some item)
  | .error .nameTooLong => .error (.tooLong path)
  | .error _ => .ok none

/-! ## Files -/

/-- The text of bytes in an encoding. -/
def Encoding.decode (host : Host) (bytes : List UInt8) : Encoding → Except FurtherFileFault Text
  | .utf8 => (Utf8.decode bytes).mapError fun _ => .encoding
  | .named name =>
    if '\x00' ∈ name then .error .zeroInName
    else
      match host.decoder? name with
      | none => .error (.noEncoding name)
      | some decode =>
        match decode bytes with
        | none => .error .encoding
        | some t => .ok t
  | .unnamed => .error .kind

/-- The text of the file at a path, if there is one. -/
def fileText? (host : Host) (tree : FileTree) (e : Encoding) (path : Text) :
    Except FurtherFileFault (Option Text) := do
  match ← furtherItem? tree path with
  | some (.file bytes) => pure (some (Text.unifyLineEnds (← e.decode host bytes)))
  | _ => pure none

/-- The variables of the files that rules name. -/
def fileVariables (host : Host) (tree : FileTree) (env : Environment) (r : Rules) :
    Except FurtherFileFault Variables := do
  let texts ← r.variableFiles.mapM fun path => do
    fileText? host tree r.encoding (← readPath host env path)
  pure (r.variablesOf ((texts.filterMap id).flatMap (VariableFile.parse env)))

/-! ## Directories -/

/-- The directories that rules name and that are there. -/
def directories (host : Host) (tree : FileTree) (env : Environment) (r : Rules) :
    Except FurtherFileFault (List Text) := do
  let paths ← r.sectionDirectories.mapM (readPath host env)
  let found ← paths.mapM fun path => do pure (path, ← furtherItem? tree path)
  let there := found.filter fun (_, item) => item.isSome
  if there.any fun (_, item) => item ≠ some .directory then throw .noDirectory
  pure (there.map (·.1))

/-- The path of a file for a section in a directory. -/
def sectionPath? (tree : FileTree) (r : Rules) (name directory : Text) : Option Text :=
  let file := (tree.namesAt directory).find? fun file => r.inCase file = r.sectionVariable name
  file.map (pathUnder directory)

/-- The text for a section in the last of some directories that has one. -/
def sectionText? (host : Host) (tree : FileTree) (r : Rules) (name : Text)
    (directories : List Text) : Except FurtherFileFault (Option Text) := do
  let texts ← (directories.filterMap (sectionPath? tree r name)).mapM (fileText? host tree .utf8)
  pure (texts.filterMap id).getLast?

/-- A section as the files in directories set it. -/
def directorySection (host : Host) (tree : FileTree) (r : Rules) (directories : List Text)
    (s : SectionNames) : Except FurtherFault (Option Value) := do
  match ← (sectionText? host tree r s.name directories).mapError fun _ => .unread with
  | none => pure none
  | some t => (r.ofText s (VariableFile.trim t) []).mapError fun _ => .unread

/-- The layer of the directories that rules name. -/
def directoryLayer (host : Host) (tree : FileTree) (env : Environment) (r : Rules)
    (sections : List SectionNames) : Except FurtherFault Fields := do
  let directories ← (directories host tree env r).mapError .files
  let found ← sections.mapM fun s => do
    pure (s.name, ← directorySection host tree r directories s)
  pure (found.filterMap fun (name, v) => v.map (name, ·))

/-! ## Words -/

/-- The layer of the words in the rules of a document. -/
def wordLayer (host : Host) (r : Rules) (ruleFields : Fields) : Except FurtherFault Fields :=
  if !r.hasWords then .ok []
  else
    match host.speak ruleFields with
    | .settings layer => .ok layer
    | .refused => .error .words
    | .ended f => .error (.ended f)
    | .broken => .error .broken

/-! ## Layers -/

/-- What is set around a document. -/
structure Around where
  /-- The layer over the document. -/
  upper : Fields
  /-- The layers under the document, the highest first. -/
  lower : List Fields
  /-- The names of variables in files that are for no section. -/
  strays : List Text

/-- The layer of a document with what is around it. -/
def Around.join (a : Around) (layer : Fields) : Fields :=
  a.lower.foldl (fun joined lower => fieldsOver lower joined) (fieldsOver layer a.upper)

/-- Refuses rules by which no name can be put together. -/
def checkLead (r : Rules) : Except FurtherFault Unit :=
  if r.leadFits then .ok () else .error .lead

/-- What is set around a document with rules, where the variables of the environment are given. -/
def around (host : Host) (tree : FileTree) (env : Environment) (r : Rules) (ruleFields : Fields)
    (vars : Variables) (sections : List SectionNames) : Except FurtherFault Around := do
  let fileVars ← (fileVariables host tree env r).mapError .files
  let upper ← wordLayer host r ruleFields
  checkLead r
  let layer ← (variableLayer r vars sections).mapError fun e => .layer e.2
  let fileLayer ← (variableLayer r fileVars sections).mapError fun e => .layer e.2
  let lowest ← directoryLayer host tree env r sections
  pure {
    upper
    lower := [layer, fileLayer, lowest]
    strays := strayVariables r (sections.map (·.name)) fileLayer fileVars }

end Retrace.Config
