import Retrace.Command.Run
import Retrace.Config.Words
import Retrace.Proofs.Config.Faults
import Retrace.Proofs.FileTree

/-!
# What a run delivers

A run either delivers a whole text, to the standard output or to the file that its options name, or
it delivers nothing and leaves the files as they were (`run_delivers`).  That rests on the order of
its parts: what is read is read before anything is written, and the write is the last part that can
end the run.

What a part of a run comes to is said by what its results have in common (`Part.Yields`).  A part
without a result ends the run, and never with the status of success, so that status is that of a
run whose parts all have one.  One part may do otherwise: the words of a configuration end the run
as they like, with the status of success and a text on the standard output if they ask for help
(`not_delivered_help`).
-/

namespace Retrace.Command

variable {α β : Type} {host : Config.Host} {o : Options} {files : FileTree} {env : Environment}
  {argv : List Text}

/-- A command line asks for a text about the program: for help, the version, or nothing at all. -/
def Informs (argv : List Text) : Prop :=
  readOptions argv = .error .help ∨ readOptions argv = .error .version ∨
    ∃ o, readOptions argv = .ok o ∧ o.sourceMap = none

/-! ## What is read and written -/

/-- A configuration is the one that options ask for. -/
def ReadsConfig (host : Config.Host) (o : Options) (files : FileTree) (env : Environment)
    (c : Config) : Prop :=
  o.config ≠ some .dropped ∧ Config.load host files env (o.config.bind Value.text?) = .ok c

/-- The file at a path is UTF-8 and holds a map. -/
def ReadsMap (files : FileTree) (path : Text) (m : SourceMap) : Prop :=
  ∃ bytes t, files.read path = .ok bytes ∧ Utf8.decode bytes = .ok t ∧
    SourceMap.load (some path) (Text.unifyLineEnds t) = .ok m

/-- The file at a path holds a report, in which what is no UTF-8 is replaced. -/
def ReadsReport (files : FileTree) (path report : Text) : Prop :=
  ∃ bytes, files.read path = .ok bytes ∧ Text.unifyLineEnds (Utf8.decodeLenient bytes) = report

/-- What a run works on. -/
structure Inputs where
  config : Config
  map : SourceMap
  report : Text

/-- Inputs are those that options name, in files and an environment. -/
structure Inputs.Named (i : Inputs) (host : Config.Host) (o : Options) (files : FileTree)
    (env : Environment) : Prop where
  config : ReadsConfig host o files env i.config
  map : ∃ path, o.sourceMap = some path ∧ ReadsMap files (FilePath.normalize path) i.map
  report : ∃ path, o.stackTrace = some path ∧
    ReadsReport files (FilePath.normalize path) i.report

/-- The trace in a report, symbolicated with a map as a configuration says.  Sources are shortened
if the configuration says so and whole ones are not asked for. -/
def Inputs.symbolicated (i : Inputs) (long : Bool) : Except Trace.Fault Text :=
  Trace.Symbolication.run
    { marker := i.config.trace.marker
      separator := i.config.trace.separator
      layout := {
        shorten := i.config.format.shorten && !long
        excluded := i.config.format.excluded } }
    i.map i.report

/-- The report that options name is symbolicated to a text. -/
def Symbolicates (host : Config.Host) (o : Options) (files : FileTree) (env : Environment)
    (text : Text) : Prop :=
  ∃ i : Inputs, i.Named host o files env ∧ i.symbolicated o.long = .ok text

/-- A text can be put where options say. -/
def Deliverable (o : Options) (files : FileTree) (text : Text) : Prop :=
  o.output = none ∨ ∃ path after, o.output = some (.text path) ∧
    files.write (FilePath.normalize path) (Utf8.encode text) = .ok after

/-- A run has put a text where options say, and nothing anywhere else. -/
structure Delivered (o : Options) (files : FileTree) (text : Text) (r : Outcome) : Prop where
  ending : r.ending = .exit 0
  output : (o.output = none ∧ r.stdout = text ∧ r.files = files) ∨
    ∃ path, o.output = some (.text path) ∧ r.stdout = [] ∧
      files.Written (FilePath.normalize path) (Utf8.encode text) r.files

/-- A run has ended without success and has put nothing anywhere. -/
structure Aborted (files : FileTree) (r : Outcome) : Prop where
  ending : r.ending = .exit 1 ∨ r.ending = .exit 2 ∨ ∃ e, r.ending = .escape e
  stdout : r.stdout = []
  files : r.files = files

/-- A command line names a configuration whose words end the program. -/
def Dismissed (host : Config.Host) (argv : List Text) (files : FileTree) (env : Environment)
    (g : Config.Farewell) : Prop :=
  ∃ o path, readOptions argv = .ok o ∧ o.stackTrace.isSome ∧ o.config = some (.text path) ∧
    Config.Dismisses host files env path g

/-- What is left by a run that words have ended: what they have to say, and nothing else. -/
def dismissal (files : FileTree) (g : Config.Farewell) : Outcome where
  ending := .exit g.status
  stdout := g.stdout
  complaint := g.complaint
  files

/-! ## Parts -/

/-- A part ends a run with the status of failure or with a fault, and has nothing to say. -/
structure Halt.Plain (halt : Halt) : Prop where
  ending : halt.ending = .exit 1 ∨ ∃ e, halt.ending = .escape e
  stdout : halt.stdout = []

/-- The results of a part are those with a property.  Where there is none, the part ends the run
with the status of failure or with a fault. -/
structure Part.Yields (p : Part α) (P : α → Prop) : Prop where
  result : ∀ a, p.result = .ok a ↔ P a
  plain : ∀ halt, p.result = .error halt → halt.Plain

namespace Part

variable {P : α → Prop}

lemma yields_done {events : List Journal.Event} {a : α} (h : ∀ b, P b ↔ a = b) :
    (done events a).Yields P where
  result b := by simp [done, h]
  plain _ hhalt := by cases hhalt

lemma yields_failed {events : List Journal.Event} {e : Journal.Event} (h : ∀ a, ¬ P a) :
    (failed events e).Yields P where
  result a := by simp [failed, h]
  plain _ hhalt := by
    obtain rfl := Except.error.inj hhalt
    exact ⟨Or.inl rfl, rfl⟩

lemma yields_escaped {events : List Journal.Event} {e : Escape} (h : ∀ a, ¬ P a) :
    (escaped events e).Yields P where
  result a := by simp [escaped, h]
  plain _ hhalt := by
    obtain rfl := Except.error.inj hhalt
    exact ⟨Or.inr ⟨e, rfl⟩, rfl⟩

lemma result_andThen (p : Part α) (f : α → Part β) :
    (p.andThen f).result = p.result >>= fun a => (f a).result := by
  rw [andThen]
  cases p.result with
  | error e => rfl
  | ok a => rfl

lemma Yields.andThen {p : Part α} {f : α → Part β} {Q : α → β → Prop} (hp : p.Yields P)
    (hf : ∀ a, (f a).Yields (Q a)) : (p.andThen f).Yields fun b => ∃ a, P a ∧ Q a b where
  result b := by
    rw [result_andThen, bind_eq_ok_iff]
    exact exists_congr fun a => and_congr (hp.result a) ((hf a).result b)
  plain halt h := by
    rw [result_andThen] at h
    rcases bind_eq_error_iff.1 h with h | ⟨a, -, h⟩
    · exact hp.plain halt h
    · exact (hf a).plain halt h

lemma Yields.congr {p : Part α} {Q : α → Prop} (hp : p.Yields P) (h : ∀ a, P a ↔ Q a) :
    p.Yields Q where
  result a := (hp.result a).trans (h a)
  plain := hp.plain

end Part

/-! ## Reading -/

lemma exists_dismisses_iff {g : Config.Farewell} :
    (∃ path, o.config = some (.text path) ∧ Config.Dismisses host files env path g) ↔
      o.config ≠ some .dropped ∧
        Config.load host files env (o.config.bind Value.text?) = .error (.ended g) := by
  rw [Config.load_eq_ended_iff]
  cases o.config with
  | none => simp
  | some value => cases value <;> simp [Value.text?]

lemma loadConfig_of_ok {c : Config} (hgiven : o.config ≠ some .dropped)
    (h : Config.load host files env (o.config.bind Value.text?) = .ok c) :
    loadConfig host o files env = .done [] c := by
  unfold loadConfig
  split
  · next hdropped => exact absurd hdropped hgiven
  · rw [h]

/-- The event about a configuration that is not loaded. -/
def refusalEvent (f : Config.Fault) : Journal.Event :=
  match f with
  | .missing path => configurationMissing path (f.message?.getD [])
  | _ => configurationInvalid f.message?

/-- A fault that is to be expected is told in an event, words that end the program have their say,
and any other fault ends the run. -/
lemma loadConfig_cases {f : Config.Fault} (hgiven : o.config ≠ some .dropped)
    (h : Config.load host files env (o.config.bind Value.text?) = .error f) :
    (f.Expected ∧ loadConfig host o files env = .failed [] (refusalEvent f)) ∨
      (¬ f.Expected ∧ ((∃ g, f = .ended g ∧ loadConfig host o files env = .left g) ∨
        (∀ g, f ≠ .ended g) ∧ loadConfig host o files env = .escaped [] (.config f))) := by
  unfold loadConfig
  split
  · next hdropped => exact absurd hdropped hgiven
  · rw [h]
    cases f with
    | yaml g =>
      rw [Config.Fault.Expected, ← Yaml.Fault.exists_message_iff]
      cases hmessage : g.message? with
      | none => exact Or.inr ⟨by simp, Or.inr ⟨by simp, by simp only [hmessage]⟩⟩
      | some message =>
        refine Or.inl ⟨⟨message, rfl⟩, ?_⟩
        simp only [hmessage, refusalEvent, Config.Fault.message?]
    | ended g => exact Or.inr ⟨id, Or.inl ⟨g, rfl, rfl⟩⟩
    | file | keyKind | ruleKind | noEncoding | homeless | broken =>
      exact Or.inr ⟨id, Or.inr ⟨by simp, rfl⟩⟩
    | _ => exact Or.inl ⟨trivial, rfl⟩

lemma loadConfig_of_ended {g : Config.Farewell} (hgiven : o.config ≠ some .dropped)
    (h : Config.load host files env (o.config.bind Value.text?) = .error (.ended g)) :
    loadConfig host o files env = .left g := by
  rcases loadConfig_cases hgiven h with ⟨hexpected, -⟩ | ⟨-, ⟨g', hg, hpart⟩ | ⟨hstays, -⟩⟩
  · exact hexpected.elim
  · obtain rfl := Config.Fault.ended.inj hg
    exact hpart
  · exact absurd rfl (hstays g)

/-- The configuration is loaded or not, if its words do not end the run. -/
lemma loadConfig_yields
    (h : ¬ ∃ g path, o.config = some (.text path) ∧ Config.Dismisses host files env path g) :
    (loadConfig host o files env).Yields (ReadsConfig host o files env) := by
  by_cases hgiven : o.config = some .dropped
  · have hpart : loadConfig host o files env = .escaped [] (.noPath .config) := by
      rw [loadConfig, hgiven]
    rw [hpart]
    exact Part.yields_escaped fun c hc => hc.1 hgiven
  cases hload : Config.load host files env (o.config.bind Value.text?) with
  | ok c =>
    rw [loadConfig_of_ok hgiven hload]
    refine Part.yields_done fun d => ?_
    rw [ReadsConfig, and_iff_right hgiven, hload, Except.ok.injEq]
  | error f =>
    have hnone : ∀ c, ¬ ReadsConfig host o files env c := by
      rintro c ⟨-, hc⟩
      cases hload.symm.trans hc
    rcases loadConfig_cases hgiven hload with ⟨-, hpart⟩ | ⟨-, ⟨g, rfl, -⟩ | ⟨-, hpart⟩⟩
    · rw [hpart]
      exact Part.yields_failed hnone
    · exact absurd ⟨g, exists_dismisses_iff.2 ⟨hgiven, hload⟩⟩ h
    · rw [hpart]
      exact Part.yields_escaped hnone

lemma loadMap_yields (files : FileTree) (path : Text) :
    (loadMap files path).Yields (ReadsMap files path) := by
  unfold loadMap ReadsMap
  split
  · next hread => exact Part.yields_escaped fun m => by simp [hread]
  · next f _ hread => exact Part.yields_failed fun m => by simp [hread]
  · next bytes hread =>
    split
    · next f hdecode => exact Part.yields_failed fun m => by simp [hread, hdecode]
    · next t hdecode =>
      split
      · next hload => exact Part.yields_failed fun m => by simp [hread, hdecode, hload]
      · next hload => exact Part.yields_escaped fun m => by simp [hread, hdecode, hload]
      · next n hload => exact Part.yields_done fun m => by simp [hread, hdecode, hload]

lemma readReport_yields (files : FileTree) (path : Text) :
    (readReport files path).Yields (ReadsReport files path) := by
  unfold readReport ReadsReport
  split
  · next hread => exact Part.yields_escaped fun report => by simp [hread]
  · next f _ hread => exact Part.yields_failed fun report => by simp [hread]
  · next bytes hread => exact Part.yields_done fun report => by simp [hread]

/-! ## Symbolicating and writing -/

lemma symbolicate_yields (s : Trace.Symbolication) (m : SourceMap) (report : Text) :
    (symbolicate s m report).Yields fun output => s.run m report = .ok output := by
  unfold symbolicate
  dsimp only
  split
  · next text hrun => exact Part.yields_done fun output => by simp [hrun]
  · next f hrun =>
    split
    · exact Part.yields_failed fun output => by simp [hrun]
    · exact Part.yields_escaped fun output => by simp [hrun]

/-- What comes of the writing of a text. -/
def Writes (files : FileTree) (given : Option Value) (text : Text) (out : Output) : Prop :=
  (given = none ∧ { stdout := text, files } = out) ∨
    ∃ path after, given = some (.text path) ∧
      files.write (FilePath.normalize path) (Utf8.encode text) = .ok after ∧
      { files := after } = out

lemma writeOutput_yields (files : FileTree) (given : Option Value) (text : Text) :
    (writeOutput files given text).Yields (Writes files given text) := by
  unfold writeOutput Writes
  split
  · exact Part.yields_done fun out => by simp
  · exact Part.yields_escaped fun out => by simp
  · dsimp only
    split
    · next after hwrite => exact Part.yields_done fun out => by simp [hwrite]
    · next hwrite => exact Part.yields_escaped fun out => by simp [hwrite]
    · next f _ hwrite => exact Part.yields_failed fun out => by simp [hwrite]

lemma exists_writes_iff {text : Text} :
    (∃ out, Writes files o.output text out) ↔ Deliverable o files text := by
  constructor
  · rintro ⟨out, ⟨hnone, -⟩ | ⟨path, after, hpath, hwrite, -⟩⟩
    · exact Or.inl hnone
    · exact Or.inr ⟨path, after, hpath, hwrite⟩
  · rintro (hnone | ⟨path, after, hpath, hwrite⟩)
    · exact ⟨_, Or.inl ⟨hnone, rfl⟩⟩
    · exact ⟨_, Or.inr ⟨path, after, hpath, hwrite, rfl⟩⟩

lemma Writes.delivered {text : Text} {out : Output} (h : Writes files o.output text out)
    (journal : List Journal.Written) :
    Delivered o files text
      { ending := .exit 0, stdout := out.stdout, files := out.files, journal } := by
  refine ⟨rfl, ?_⟩
  rcases h with ⟨hnone, rfl⟩ | ⟨path, after, hpath, hwrite, rfl⟩
  · exact Or.inl ⟨hnone, rfl, rfl⟩
  · exact Or.inr ⟨path, hpath, rfl, FileTree.written_of_write hwrite⟩

/-! ## Work -/

/-- What comes of the work of a run under a configuration. -/
def Works (o : Options) (config : Config) (files : FileTree) (mapPath reportPath : Text)
    (out : Output) : Prop :=
  ∃ m report text, ReadsMap files mapPath m ∧ ReadsReport files reportPath report ∧
    (Inputs.mk config m report).symbolicated o.long = .ok text ∧
    Writes files o.output (text ++ ['\n']) out

lemma work_yields (o : Options) (config : Config) (files : FileTree) (mapPath reportPath : Text) :
    (work o config files mapPath reportPath).Yields (Works o config files mapPath reportPath) := by
  have hopening : (Part.done (starting :: (o.trace.map traceIgnored).toList) ()).Yields
      fun _ => True := Part.yields_done fun _ => by simp
  have hparts := hopening.andThen fun _ =>
    (loadMap_yields files mapPath).andThen fun m =>
      (readReport_yields files reportPath).andThen fun report =>
        (symbolicate_yields (config.symbolication o.long) m report).andThen fun output =>
          writeOutput_yields files o.output (output ++ ['\n'])
  refine hparts.congr fun out => ?_
  constructor
  · rintro ⟨-, -, m, hm, report, hreport, text, htext, hout⟩
    exact ⟨m, report, text, hm, hreport, htext, hout⟩
  · rintro ⟨m, report, text, hm, hreport, htext, hout⟩
    exact ⟨(), trivial, m, hm, report, hreport, text, htext, hout⟩

/-- What it takes for the work of a run to have an output. -/
lemma exists_works_iff {mapPath reportPath : Text} (hmap : o.sourceMap = some mapPath)
    (hreport : o.stackTrace = some reportPath) {out : Output} :
    (∃ config, ReadsConfig host o files env config ∧
      Works o config files (FilePath.normalize mapPath) (FilePath.normalize reportPath) out) ↔
    ∃ text, Symbolicates host o files env text ∧ Writes files o.output (text ++ ['\n']) out := by
  constructor
  · rintro ⟨config, hconfig, m, report, text, hm, hread, htext, hout⟩
    exact ⟨text, ⟨⟨config, m, report⟩, ⟨hconfig, ⟨mapPath, hmap, hm⟩,
      ⟨reportPath, hreport, hread⟩⟩, htext⟩, hout⟩
  · rintro ⟨text, ⟨i, ⟨hconfig, ⟨path, hpath, hm⟩, ⟨other, hother, hread⟩⟩, htext⟩, hout⟩
    obtain rfl := Option.some.inj (hmap.symm.trans hpath)
    obtain rfl := Option.some.inj (hreport.symm.trans hother)
    exact ⟨i.config, hconfig, i.map, i.report, text, hm, hread, htext, hout⟩

lemma ReadsMap.unique {path : Text} {m n : SourceMap} (hm : ReadsMap files path m)
    (hn : ReadsMap files path n) : m = n :=
  Except.ok.inj ((((loadMap_yields files path).result m).2 hm).symm.trans
    (((loadMap_yields files path).result n).2 hn))

lemma ReadsReport.unique {path report other : Text} (h : ReadsReport files path report)
    (hother : ReadsReport files path other) : report = other :=
  Except.ok.inj ((((readReport_yields files path).result report).2 h).symm.trans
    (((readReport_yields files path).result other).2 hother))

lemma Inputs.Named.unique {i j : Inputs} (hi : i.Named host o files env)
    (hj : j.Named host o files env) : i = j := by
  obtain ⟨⟨-, hconfig⟩, ⟨path, hpath, hmap⟩, ⟨other, hother, hreport⟩⟩ := hi
  obtain ⟨⟨-, hconfig'⟩, ⟨path', hpath', hmap'⟩, ⟨other', hother', hreport'⟩⟩ := hj
  obtain rfl := Option.some.inj (hpath.symm.trans hpath')
  obtain rfl := Option.some.inj (hother.symm.trans hother')
  cases i
  cases j
  obtain rfl := Except.ok.inj (hconfig.symm.trans hconfig')
  obtain rfl := hmap.unique hmap'
  obtain rfl := hreport.unique hreport'
  rfl

/-- The report that options name has at most one symbolicated text. -/
lemma Symbolicates.unique {text other : Text} (h : Symbolicates host o files env text)
    (hother : Symbolicates host o files env other) : text = other := by
  obtain ⟨i, hi, htext⟩ := h
  obtain ⟨j, hj, hother⟩ := hother
  obtain rfl := hi.unique hj
  exact Except.ok.inj (htext.symm.trans hother)

/-! ## Runs -/

lemma aborted_endedBy {halt : Halt} (h : halt.Plain) (s : Journal.Session)
    (events : List Journal.Event) : Aborted files (endedBy s files events halt) :=
  ⟨h.ending.imp id Or.inr, h.stdout, rfl⟩

lemma runOn_of_unconfigured {halt : Halt} (h : (loadConfig host o files env).result = .error halt)
    (mapPath reportPath : Text) :
    runOn host o files env mapPath reportPath =
      endedBy { settings := some (journalSettings o {}) } files (loadConfig host o files env).events
        halt := by
  unfold runOn
  simp only [h]

lemma runOn_of_ended {g : Config.Farewell} (hgiven : o.config ≠ some .dropped)
    (h : Config.load host files env (o.config.bind Value.text?) = .error (.ended g))
    (mapPath reportPath : Text) :
    runOn host o files env mapPath reportPath = dismissal files g := by
  have hpart := loadConfig_of_ended hgiven h
  have hresult : (loadConfig host o files env).result = .error
      { ending := .exit g.status, stdout := g.stdout, complaint := g.complaint } := by
    rw [hpart]
    rfl
  rw [runOn_of_unconfigured hresult, hpart]
  rfl

lemma exists_runOn_of_failed {config : Config} {mapPath reportPath : Text} {halt : Halt}
    (hconfig : (loadConfig host o files env).result = .ok config)
    (h : (work o config files mapPath reportPath).result = .error halt) :
    ∃ s events, runOn host o files env mapPath reportPath = endedBy s files events halt := by
  unfold runOn
  simp only [hconfig, h]
  exact ⟨_, _, rfl⟩

lemma exists_runOn_of_done {config : Config} {mapPath reportPath : Text} {out : Output}
    (hconfig : (loadConfig host o files env).result = .ok config)
    (h : (work o config files mapPath reportPath).result = .ok out) :
    ∃ journal, runOn host o files env mapPath reportPath =
      { ending := .exit 0, stdout := out.stdout, files := out.files, journal } := by
  unfold runOn
  simp only [hconfig, h]
  exact ⟨_, rfl⟩

/-- A run with a map and a report ends with the output of its work, or has put nothing anywhere, if
the words of its configuration do not end it. -/
lemma runOn_cases
    (h : ¬ ∃ g path, o.config = some (.text path) ∧ Config.Dismisses host files env path g)
    (mapPath reportPath : Text) :
    (∃ config out journal, ReadsConfig host o files env config ∧
      Works o config files mapPath reportPath out ∧
      runOn host o files env mapPath reportPath =
        { ending := .exit 0, stdout := out.stdout, files := out.files, journal }) ∨
    ((¬ ∃ config out, ReadsConfig host o files env config ∧
      Works o config files mapPath reportPath out) ∧
      Aborted files (runOn host o files env mapPath reportPath)) := by
  have hloads := loadConfig_yields h
  cases hconfig : (loadConfig host o files env).result with
  | error halt =>
    refine Or.inr ⟨?_, ?_⟩
    · rintro ⟨config, out, hread, -⟩
      cases hconfig.symm.trans ((hloads.result config).2 hread)
    · rw [runOn_of_unconfigured hconfig]
      exact aborted_endedBy (hloads.plain halt hconfig) _ _
  | ok config =>
    have hread : ReadsConfig host o files env config := (hloads.result config).1 hconfig
    have hworks := work_yields o config files mapPath reportPath
    cases hwork : (work o config files mapPath reportPath).result with
    | error halt =>
      refine Or.inr ⟨?_, ?_⟩
      · rintro ⟨other, out, hother, hout⟩
        obtain rfl := Except.ok.inj (hconfig.symm.trans ((hloads.result other).2 hother))
        cases hwork.symm.trans ((hworks.result out).2 hout)
      · obtain ⟨s, events, hrun⟩ := exists_runOn_of_failed hconfig hwork
        rw [hrun]
        exact aborted_endedBy (hworks.plain halt hwork) _ _
    | ok out =>
      obtain ⟨journal, hrun⟩ := exists_runOn_of_done hconfig hwork
      exact Or.inl ⟨config, out, journal, hread, (hworks.result out).1 hwork, hrun⟩

lemma run_of_readOptions {mapPath reportPath : Text} (h : readOptions argv = .ok o)
    (hmap : o.sourceMap = some mapPath) (hreport : o.stackTrace = some reportPath) :
    run host argv files env =
      runOn host o files env (FilePath.normalize mapPath) (FilePath.normalize reportPath) := by
  rw [run, h]
  simp only [hmap, hreport]

/-- A command line that asks for a run names a map and a report, or is refused and does not. -/
lemma run_cases (host : Config.Host) (h : ¬ Informs argv) (files : FileTree) (env : Environment) :
    (∃ o mapPath reportPath, readOptions argv = .ok o ∧ o.sourceMap = some mapPath ∧
      o.stackTrace = some reportPath) ∨
    (¬ ∃ o reportPath, readOptions argv = .ok o ∧ o.stackTrace = some reportPath) ∧
      ∃ complaint, run host argv files env = { ending := .exit 2, complaint, files } := by
  unfold run
  cases hread : readOptions argv with
  | error stop =>
    refine Or.inr ⟨by rintro ⟨o, reportPath, ⟨⟩, -⟩, ?_⟩
    cases stop with
    | help => exact absurd (Or.inl hread) h
    | version => exact absurd (Or.inr (Or.inl hread)) h
    | refused message => exact ⟨_, rfl⟩
  | ok o =>
    cases hmap : o.sourceMap with
    | none => exact absurd (Or.inr (Or.inr ⟨o, hread, hmap⟩)) h
    | some mapPath =>
      cases hreport : o.stackTrace with
      | none =>
        refine Or.inr ⟨?_, ?_⟩
        · rintro ⟨other, reportPath, hother, hpath⟩
          obtain rfl := Except.ok.inj hother
          cases hreport.symm.trans hpath
        · simp only [hmap, hreport]
          exact ⟨_, rfl⟩
      | some reportPath => exact Or.inl ⟨o, mapPath, reportPath, rfl, hmap, hreport⟩

lemma Symbolicates.exists_stackTrace {text : Text} (h : Symbolicates host o files env text) :
    ∃ reportPath, o.stackTrace = some reportPath := by
  obtain ⟨i, ⟨-, -, ⟨path, hpath, -⟩⟩, -⟩ := h
  exact ⟨path, hpath⟩

/-- **All or nothing.** A run that a command line asks for either succeeds with the report that its
options name symbolicated and delivered, on the standard output or in one file; or that report
cannot be symbolicated and delivered, and the run ends with another status or a fault, its standard
output empty and its files as they were.  The words of a configuration may end it in a way of their
own; its files are then as they were, and all it leaves is what they have to say. -/
theorem run_delivers (host : Config.Host) (h : ¬ Informs argv) (files : FileTree)
    (env : Environment) :
    (∃ o text, readOptions argv = .ok o ∧ Symbolicates host o files env text ∧
      Delivered o files (text ++ ['\n']) (run host argv files env)) ∨
    ((¬ ∃ o text, readOptions argv = .ok o ∧ Symbolicates host o files env text ∧
      Deliverable o files (text ++ ['\n'])) ∧
      ((¬ ∃ g, Dismissed host argv files env g) ∧ Aborted files (run host argv files env) ∨
        ∃ g, Dismissed host argv files env g ∧ run host argv files env = dismissal files g)) := by
  rcases run_cases host h files env with ⟨o, mapPath, reportPath, hread, hmap, hreport⟩ |
    ⟨hnoReport, complaint, hrun⟩
  · rw [run_of_readOptions hread hmap hreport]
    by_cases hends : ∃ g path, o.config = some (.text path) ∧
      Config.Dismisses host files env path g
    · obtain ⟨g, hdismisses⟩ := hends
      obtain ⟨hgiven, hload⟩ := exists_dismisses_iff.1 hdismisses
      refine Or.inr ⟨?_, Or.inr ⟨g, ?_, runOn_of_ended hgiven hload _ _⟩⟩
      · rintro ⟨other, text, hother, ⟨i, ⟨⟨-, hconfig⟩, -, -⟩, -⟩, -⟩
        obtain rfl := Except.ok.inj (hread.symm.trans hother)
        cases hload.symm.trans hconfig
      · obtain ⟨path, hpath, hdismisses⟩ := hdismisses
        exact ⟨o, path, hread, by rw [hreport]; rfl, hpath, hdismisses⟩
    · rcases runOn_cases hends (FilePath.normalize mapPath) (FilePath.normalize reportPath)
        with ⟨config, out, journal, hconfig, hworks, hrun⟩ | ⟨hno, haborted⟩
      · obtain ⟨text, hsymbolicates, hwrites⟩ :=
          (exists_works_iff hmap hreport).1 ⟨config, hconfig, hworks⟩
        rw [hrun]
        exact Or.inl ⟨o, text, hread, hsymbolicates, hwrites.delivered journal⟩
      · refine Or.inr ⟨?_, Or.inl ⟨?_, haborted⟩⟩
        · rintro ⟨other, text, hother, hsymbolicates, hdeliverable⟩
          obtain rfl := Except.ok.inj (hread.symm.trans hother)
          obtain ⟨out, hwrites⟩ := exists_writes_iff.2 hdeliverable
          obtain ⟨config, hconfig, hworks⟩ :=
            (exists_works_iff hmap hreport).2 ⟨text, hsymbolicates, hwrites⟩
          exact hno ⟨config, out, hconfig, hworks⟩
        · rintro ⟨g, other, path, hother, -, hpath, hdismisses⟩
          obtain rfl := Except.ok.inj (hread.symm.trans hother)
          exact hends ⟨g, path, hpath, hdismisses⟩
  · refine Or.inr ⟨?_, Or.inl ⟨?_, ?_⟩⟩
    · rintro ⟨o, text, hread, hsymbolicates, -⟩
      obtain ⟨reportPath, hreport⟩ := hsymbolicates.exists_stackTrace
      exact hnoReport ⟨o, reportPath, hread, hreport⟩
    · rintro ⟨g, o, path, hread, hreport, -⟩
      obtain ⟨reportPath, hreport⟩ := Option.isSome_iff_exists.1 hreport
      exact hnoReport ⟨o, reportPath, hread, hreport⟩
    · rw [hrun]
      exact ⟨Or.inr (Or.inl rfl), rfl, rfl⟩

/-! ### A run that writes a file -/

/-- The plain host of the program without words of its own. -/
def plainHost : Config.Host := .plain program []

/-- A command line that names a map, a report and a file to write. -/
def fileArgv : List Text := ["m".toList, "t".toList, "-o".toList, "out".toList]

/-- Its options. -/
def fileOptions : Options where
  sourceMap := some "m".toList
  stackTrace := some "t".toList
  output := some (.text "out".toList)

/-- The text of a map with one token. -/
def fileMapText : Text :=
  "\x7b\"sources\":[\"a.js\"],\"names\":[],\"mappings\":\"AAAA\"\x7d".toList

/-- A report with a frame at that token. -/
def fileReport : Text := "JavascriptException: x\nf@1:0".toList

/-- The frame where it comes from. -/
def fileTrace : Text := "JavascriptException: x\n  at a.js:1:0".toList

/-- A tree with the map and the report. -/
def fileTree : FileTree where
  items := [
    (["m".toList], .file (Utf8.encode fileMapText)),
    (["t".toList], .file (Utf8.encode fileReport))]

lemma symbolicates_fileTrace : Symbolicates plainHost fileOptions fileTree [] fileTrace := by
  refine ⟨⟨{}, .regular [[⟨0, some ⟨.text "a.js".toList, 0, 0, none⟩⟩]], fileReport⟩,
    ⟨⟨nofun, ?_⟩, ⟨_, rfl, ?_⟩, ⟨_, rfl, ?_⟩⟩, ?_⟩
  · cbv
  · exact ⟨Utf8.encode fileMapText, fileMapText, by cbv, by cbv, by cbv⟩
  · exact ⟨Utf8.encode fileReport, by cbv, by cbv⟩
  · cbv

lemma deliverable_fileTrace : Deliverable fileOptions fileTree (fileTrace ++ ['\n']) :=
  Or.inr ⟨_, _, rfl, by cbv⟩

theorem run_delivers_file :
    ¬ Informs fileArgv ∧
      Delivered fileOptions fileTree (fileTrace ++ ['\n'])
        (run plainHost fileArgv fileTree []) := by
  have hread : readOptions fileArgv = .ok fileOptions := by cbv
  have hasks : ¬ Informs fileArgv := by
    rintro (h | h | ⟨o, ho, hnone⟩)
    · rw [hread] at h
      cases h
    · rw [hread] at h
      cases h
    · obtain rfl := Except.ok.inj (hread.symm.trans ho)
      cases hnone
  refine ⟨hasks, ?_⟩
  rcases run_delivers plainHost hasks fileTree [] with ⟨o, text, ho, htext, hdelivered⟩ | ⟨hno, -⟩
  · obtain rfl := Except.ok.inj (hread.symm.trans ho)
    obtain rfl := htext.unique symbolicates_fileTrace
    exact hdelivered
  · exact absurd ⟨_, _, hread, symbolicates_fileTrace, deliverable_fileTrace⟩ hno

/-! ### A run that words end -/

/-- A command line that names a configuration, a map and a report. -/
def configArgv : List Text := ["-c".toList, "c.yaml".toList, "m".toList, "t".toList]

/-- Its options. -/
def configOptions : Options where
  sourceMap := some "m".toList
  stackTrace := some "t".toList
  config := some (.text "c.yaml".toList)

lemma readOptions_configArgv : readOptions configArgv = .ok configOptions := by cbv

/-- A configuration with words that ask for help. -/
def helpConfig : Text :=
  "_cli_prog_name: x\n_cli_avoid_json: true\n_cli_parse_args: [\"--help\"]\n".toList

/-- A tree with the configuration, the map and the report. -/
def helpTree : FileTree where
  items := (["c.yaml".toList], .file (Utf8.encode helpConfig)) :: fileTree.items

/-- The help that the words ask for. -/
def askedHelp : Text := Config.Words.help "x".toList (Config.Setter.table false)

lemma load_helpTree : Config.load plainHost helpTree [] (some "c.yaml".toList) =
    .error (.ended { status := 0, stdout := askedHelp }) := by
  decide +kernel

/-- Words that ask for help end a run with the status of success and with the help on its standard
output, though no report has been symbolicated. -/
theorem not_delivered_help :
    ¬ Informs configArgv ∧
      run plainHost configArgv helpTree [] =
        { ending := .exit 0, stdout := askedHelp, files := helpTree } ∧
      ¬ ((∃ o text, readOptions configArgv = .ok o ∧ Symbolicates plainHost o helpTree [] text ∧
          Delivered o helpTree (text ++ ['\n']) (run plainHost configArgv helpTree [])) ∨
        Aborted helpTree (run plainHost configArgv helpTree [])) := by
  have hrun : run plainHost configArgv helpTree [] =
      dismissal helpTree { status := 0, stdout := askedHelp } := by
    have hgiven : configOptions.config ≠ some .dropped := by decide
    rw [run_of_readOptions readOptions_configArgv rfl rfl]
    exact runOn_of_ended hgiven load_helpTree _ _
  refine ⟨?_, hrun, ?_⟩
  · rintro (h | h | ⟨o, ho, hnone⟩)
    · cases readOptions_configArgv.symm.trans h
    · cases readOptions_configArgv.symm.trans h
    · obtain rfl := Except.ok.inj (readOptions_configArgv.symm.trans ho)
      cases hnone
  · rintro (⟨o, text, ho, ⟨i, ⟨⟨-, hconfig⟩, -, -⟩, -⟩, -⟩ | haborted)
    · obtain rfl := Except.ok.inj (readOptions_configArgv.symm.trans ho)
      cases load_helpTree.symm.trans hconfig
    · have hstdout := haborted.stdout
      rw [hrun] at hstdout
      change askedHelp = [] at hstdout
      cases hstdout

end Retrace.Command
