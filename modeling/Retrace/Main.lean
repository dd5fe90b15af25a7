import Retrace.Command.Run
import Retrace.Config.Words

/-!
# The command line

A run of the program: the environment and the files that its command line and its configuration name
are looked at, `Command.run` says what comes of them, and that is carried out.
-/

namespace Retrace

/-- What stands at a place whose directory is there. -/
def itemAt? (place : Place) : IO (Option FileItem) := do
  match ← (IO.FS.readBinFile (String.ofList place.path)).toBaseIO with
  | .ok bytes => return some (.file bytes.toList)
  | .error (.noFileOrDirectory ..) => return none
  | .error (.inappropriateType ..) => return some .directory
  | .error e => throw e

/-- A tree with what stands at a place. -/
def withItemAt (tree : FileTree) (place : Place) : IO FileTree := do
  if tree.item? place.dropLast ≠ some .directory then return tree
  match ← itemAt? place with
  | some item => return tree.set place item
  | none => return tree

/-- A tree with the files that paths lead to and over. -/
def withFilesAt (tree : FileTree) (paths : List Text) : IO FileTree := do
  let places := paths.flatMap fun path => (tree.start path).waypoints (FilePath.names path)
  places.foldlM withItemAt tree

/-- The paths of what is in the directory at a path. -/
def pathsIn (path : Text) : IO (List Text) := do
  match ← ((← IO.currentDir) / String.ofList path).readDir.toBaseIO with
  | .ok entries => return entries.toList.map fun e => path ++ '/' :: e.fileName.toList
  | .error _ => return []

/-- A tree with the further files that the configuration at a path names. -/
def withFurtherFiles (host : Config.Host) (tree : FileTree) (env : Environment) (config : Text) :
    IO FileTree := do
  let rules := Config.rulesAt tree env config
  let paths (given : List (Option Text)) : List Text :=
    given.filterMap fun path => (Config.readPath host env path).toOption
  let directories := paths rules.sectionDirectories
  let tree ← withFilesAt tree (paths rules.variableFiles ++ directories)
  withFilesAt tree (← directories.mapM pathsIn).flatten

/-- The environment of the program. -/
def environment : IO Environment := do
  match ← (IO.FS.readBinFile "/proc/self/environ").toBaseIO with
  | .ok bytes => return .ofBlock (Utf8.decodeLenient bytes.toList)
  | .error _ => return []

/-- Carries out what has come of a run, and gives its exit status. -/
def carryOut (before : FileTree) (outcome : Command.Outcome) : IO UInt32 := do
  for (place, bytes) in before.changedSince outcome.files do
    IO.FS.writeBinFile (String.ofList place.path) ⟨bytes.toArray⟩
  for written in outcome.journal do
    if let some line := written.text? then IO.eprintln (String.ofList line)
  IO.print (String.ofList outcome.stdout)
  IO.eprint (String.ofList outcome.complaint)
  match outcome.ending with
  | .exit status => return status.toUInt32
  | .escape e =>
    IO.eprintln (String.ofList (Command.program ++ ": ".toList
      ++ e.message?.getD "the run has failed".toList))
    return 1

end Retrace

open Retrace

/-- Runs the program with the words of its command line. -/
def main (args : List String) : IO UInt32 := do
  let argv := args.map String.toList
  let here := FilePath.names (← IO.currentDir).toString.toList
  let host := Config.Host.plain Command.program argv
  let env ← environment
  let options := (Command.readOptions argv).toOption.getD {}
  let files ← withFilesAt { here } options.paths
  let files ← match options.config with
    | some (.text path) => withFurtherFiles host files env path
    | _ => pure files
  carryOut files (Command.run host argv files env)
