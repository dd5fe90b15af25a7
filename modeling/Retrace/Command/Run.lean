import Retrace.Command.Events
import Retrace.Config.Load
import Retrace.SourceMap.Basic

/-!
# Running a command

A run reads its command line, its configuration, the source map and the report, and writes the
symbolicated trace to the standard output or to a file.  Whatever fails on the way, nothing is
written but events, save what the words of a configuration have to say that end the run.
-/

namespace Retrace.Command

open Journal (Session Event Written)

/-- A fault that ends a run without an exit status. -/
inductive Escape
  /-- A switch that needs a path for its value has none. -/
  | noPath (s : Switch)
  | config (f : Config.Fault)
  | trace (f : Trace.Fault)
  | map (f : SourceMap.LoadFault)
  | file (path : Text) (f : FileFault)
deriving DecidableEq, Repr

/-- The wording of a fault that ends a run, where it is fixed. -/
def Escape.message? : Escape → Option Text
  | .noPath s => some ("argument ".toList ++ s.title ++ ": no path".toList)
  | .config f => f.message?
  | .trace f => f.message?
  | .map .overflow => none
  | .map (.rejected f _) => some f.message
  | .file path f => some (f.message path)

/-- How a run ends. -/
inductive Ending
  | exit (status : Nat)
  | escape (e : Escape)
deriving DecidableEq, Repr

/-- What a run leaves behind. -/
structure Outcome where
  ending : Ending
  stdout : Text := []
  /-- What is said on the standard error beside the journal. -/
  complaint : Text := []
  journal : List Written := []
  files : FileTree
deriving Repr

/-- What a session writes of events. -/
def written (s : Session) (events : List Event) : List Written :=
  events.filterMap fun e => (s.emit e).toOption

/-! ## The work of a run -/

/-- How a part ends a run, with what it says beside the journal. -/
structure Halt where
  ending : Ending
  stdout : Text := []
  complaint : Text := []
deriving DecidableEq, Repr

/-- What went on in a part of a run: its events, and its result or how it ended the run. -/
structure Part (α : Type) where
  events : List Event
  result : Except Halt α

/-- One part of a run after another. -/
def Part.andThen {α β : Type} (p : Part α) (f : α → Part β) : Part β :=
  match p.result with
  | .error e => ⟨p.events, .error e⟩
  | .ok a => ⟨p.events ++ (f a).events, (f a).result⟩

/-- A part that succeeds. -/
def Part.done {α : Type} (events : List Event) (a : α) : Part α := ⟨events, .ok a⟩

/-- A part that ends the run with an event and the status of failure. -/
def Part.failed {α : Type} (events : List Event) (e : Event) : Part α :=
  ⟨events ++ [e], .error { ending := .exit 1 }⟩

/-- A part that ends the run with a fault. -/
def Part.escaped {α : Type} (events : List Event) (e : Escape) : Part α :=
  ⟨events, .error { ending := .escape e }⟩

/-- A part that is ended by words. -/
def Part.left {α : Type} (f : Config.Farewell) : Part α :=
  ⟨[], .error { ending := .exit f.status, stdout := f.stdout, complaint := f.complaint }⟩

/-- The name of the kind of a map that is not loaded. -/
def mapFailure : Text := "MapLoadError".toList

/-- The message about a map that cannot be read. -/
def unreadMap (path reason : Text) : Text :=
  "Could not read source map ".toList ++ path ++ ": ".toList ++ reason

/-- Loads the source map. -/
def loadMap (files : FileTree) (path : Text) : Part SourceMap :=
  match files.read path with
  | .error .zeroInPath => .escaped [] (.file path .zeroInPath)
  | .error f => .failed [] (runFailed mapFailure (unreadMap path (f.message path)))
  | .ok bytes =>
    match Utf8.decode bytes with
    | .error f => .failed [] (runFailed mapFailure (unreadMap path f.message))
    | .ok t =>
      match SourceMap.load (some path) (Text.unifyLineEnds t) with
      | .error (.rejected f _) => .failed [] (runFailed mapFailure f.message)
      | .error .overflow => .escaped [] (.map .overflow)
      | .ok m => .done [mapLoaded path] m

/-- Reads the report. -/
def readReport (files : FileTree) (path : Text) : Part Text :=
  match files.read path with
  | .error .zeroInPath => .escaped [] (.file path .zeroInPath)
  | .error f => .failed [] (runFailed f.name (f.message path))
  | .ok bytes => .done [] (Text.unifyLineEnds (Utf8.decodeLenient bytes))

/-- The name of the kind of a fault that a run reports. -/
def reportedKind? : Trace.Fault → Option Text
  | .noBlock _ => some "InputSelectionError".toList
  | .strayLine _ _ => some "StackParseError".toList
  | .emptySeparator | .numeral _ | .unlikeSources | .sourceWithoutLead => none

/-- Symbolicates the report. -/
def symbolicate (s : Trace.Symbolication) (m : SourceMap) (report : Text) : Part Text :=
  let events := (s.notes m report).map noteEvent
  match s.run m report with
  | .ok output => .done events output
  | .error f =>
    match reportedKind? f with
    | some kind => .failed events (runFailed kind (f.message?.getD []))
    | none => .escaped events (.trace f)

/-- What is written: text for the standard output, and the files after the run. -/
structure Output where
  stdout : Text := []
  files : FileTree

/-- Writes a text to the standard output, or to a file if one is named. -/
def writeOutput (files : FileTree) (path : Option Value) (text : Text) : Part Output :=
  match path with
  | none => .done [] { stdout := text, files }
  | some .dropped => .escaped [] (.noPath .output)
  | some (.text path) =>
    let path := FilePath.normalize path
    match files.write path (Utf8.encode text) with
    | .ok files => .done [outputWritten path] { files }
    | .error .zeroInPath => .escaped [] (.file path .zeroInPath)
    | .error f => .failed [] (runFailed f.name (f.message path))

/-- The work of a run with a map and a report under a configuration. -/
def work (o : Options) (config : Config) (files : FileTree) (mapPath reportPath : Text) :
    Part Output :=
  let opening := starting :: (o.trace.map traceIgnored).toList
  (Part.done opening ()).andThen fun _ =>
    (loadMap files mapPath).andThen fun m =>
      (readReport files reportPath).andThen fun report =>
        (symbolicate (config.symbolication o.long) m report).andThen fun output =>
          writeOutput files o.output (output ++ ['\n'])

/-! ## The configuration -/

/-- The settings of the journal: those asked for, else those of the configuration. -/
def journalSettings (o : Options) (s : Journal.Settings) : Journal.Settings where
  level := if o.debug then .debug else s.level
  format := o.logFormat.getD s.format

/-- Loads the configuration. -/
def loadConfig (host : Config.Host) (o : Options) (files : FileTree) (env : Environment) :
    Part Config :=
  match o.config with
  | some .dropped => .escaped [] (.noPath .config)
  | value =>
    match Config.load host files env (value.bind Value.text?) with
    | .ok c => .done [] c
    | .error f =>
      match f with
      | .missing path => .failed [] (configurationMissing path (f.message?.getD []))
      | .encoding _ | .unset _ | .sectionVariable _ | .conflict _ =>
        .failed [] (configurationInvalid f.message?)
      | .problems _ => .failed [] (configurationInvalid none)
      | .yaml g =>
        match g.message? with
        | some message => .failed [] (configurationInvalid (some message))
        | none => .escaped [] (.config f)
      | .ended g => .left g
      | .file _ _ | .keyKind | .ruleKind | .noEncoding _ | .homeless | .broken =>
        .escaped [] (.config f)

/-! ## Runs -/

/-- The outcome of a run that a part ends. -/
def endedBy (s : Session) (files : FileTree) (events : List Event) (halt : Halt) : Outcome where
  ending := halt.ending
  stdout := halt.stdout
  complaint := halt.complaint
  journal := written s events
  files

/-- A run with a map and a report. -/
def runOn (host : Config.Host) (o : Options) (files : FileTree) (env : Environment)
    (mapPath reportPath : Text) : Outcome :=
  let before : Session := { settings := some (journalSettings o {}) }
  let loaded := loadConfig host o files env
  match loaded.result with
  | .error halt => endedBy before files loaded.events halt
  | .ok config =>
    let session : Session := {
      settings := some (journalSettings o config.logging)
      context := [("source_map".toList, .text mapPath), ("stack_trace".toList, .text reportPath)] }
    let part := work o config files mapPath reportPath
    match part.result with
    | .error halt => endedBy session files part.events halt
    | .ok output =>
      { ending := .exit 0, stdout := output.stdout, files := output.files
        journal := written session part.events }

/-- A run with a command line. -/
def run (host : Config.Host) (argv : List Text) (files : FileTree) (env : Environment) :
    Outcome :=
  match readOptions argv with
  | .error .help => { ending := .exit 0, stdout := help, files }
  | .error .version => { ending := .exit 0, stdout := versionLine, files }
  | .error (.refused message) => { ending := .exit 2, complaint := refusal message, files }
  | .ok o =>
    match o.sourceMap, o.stackTrace with
    | none, _ => { ending := .exit 0, stdout := help, files }
    | some _, none => { ending := .exit 2, complaint := refusal missingTrace, files }
    | some mapPath, some reportPath =>
      runOn host o files env (FilePath.normalize mapPath) (FilePath.normalize reportPath)

end Retrace.Command
