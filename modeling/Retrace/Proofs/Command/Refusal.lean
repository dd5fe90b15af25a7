import Retrace.Proofs.Command.Delivery
import Retrace.Proofs.Config.Faults

/-!
# Runs without a configuration

A run whose configuration is not loaded ends before it has looked at anything else.  If the fault is
one that is to be expected, the run says so in one event and has the status of failure; any other
fault ends the run as it is, and words that end the program have their say (`run_unconfigured`).
Such faults are not only those of odd documents: a text that is no YAML is one of them
(`not_expected_bracket`).
-/

namespace Retrace.Command

open Journal (Event Session Written)
open Config (Fault Derails)

variable {host : Config.Host} {o : Options} {files : FileTree} {env : Environment}
  {argv : List Text} {f : Fault}

/-- The session of a run that has no configuration yet. -/
def openingSession (o : Options) : Session where
  settings := some (journalSettings o {})

/-- A run has ended over its configuration, and has written one event of an error and nothing else.
-/
structure Refused (o : Options) (files : FileTree) (f : Fault) (r : Outcome) : Prop where
  ending : r.ending = .exit 1
  stdout : r.stdout = []
  complaint : r.complaint = []
  files : r.files = files
  level : (refusalEvent f).level = .error
  journal : ∃ w, (openingSession o).emit (refusalEvent f) = .ok w ∧ w.text?.isSome ∧
    r.journal = [w]

/-! ## The event -/

lemma level_refusalEvent (f : Fault) : (refusalEvent f).level = .error := by
  cases f <;> rfl

lemma refusalEvent_cases (f : Fault) :
    (∃ path message, refusalEvent f = configurationMissing path message) ∨
      ∃ message, refusalEvent f = configurationInvalid message := by
  cases f with
  | missing path => exact Or.inl ⟨_, _, rfl⟩
  | _ => exact Or.inr ⟨_, rfl⟩

lemma journalSettings_level (o : Options) :
    (journalSettings o {}).level = .debug ∨ (journalSettings o {}).level = .warning := by
  cases hdebug : o.debug with
  | true => exact Or.inl (by simp [journalSettings, hdebug])
  | false => exact Or.inr (by simp [journalSettings, hdebug])

/-- The event is written, whatever has been asked of the journal. -/
lemma exists_emit_refusalEvent (o : Options) (f : Fault) :
    ∃ w, (openingSession o).emit (refusalEvent f) = .ok w ∧ w.text?.isSome := by
  have hlevel := journalSettings_level o
  rw [openingSession]
  generalize journalSettings o {} = settings at hlevel ⊢
  obtain ⟨level, format⟩ := settings
  -- Only the names of the fields are looked at, and they are given, whatever the texts are.
  rcases refusalEvent_cases f with ⟨path, message, hevent⟩ | ⟨message, hevent⟩
  · rw [hevent]
    rcases hlevel with rfl | rfl
    all_goals cases format
    all_goals exact ⟨_, rfl, rfl⟩
  · rw [hevent]
    cases message
    all_goals rcases hlevel with rfl | rfl
    all_goals cases format
    all_goals exact ⟨_, rfl, rfl⟩

/-! ## Runs -/

/-- How a fault that is not to be expected ends a run. -/
def derailed (files : FileTree) : Fault → Outcome
  | .ended g => dismissal files g
  | f => { ending := .escape (.config f), files }

lemma written_singleton {s : Session} {e : Event} {w : Written} (h : s.emit e = .ok w) :
    written s [e] = [w] := by
  simp [written, h, Except.toOption]

lemma runOn_cases_of_error (hgiven : o.config ≠ some .dropped)
    (h : Config.load host files env (o.config.bind Value.text?) = .error f)
    (mapPath reportPath : Text) :
    (f.Expected ∧ Refused o files f (runOn host o files env mapPath reportPath)) ∨
      (¬ f.Expected ∧ runOn host o files env mapPath reportPath = derailed files f) := by
  rcases loadConfig_cases hgiven h with
    ⟨hexpected, hpart⟩ | ⟨hunexpected, ⟨g, rfl, -⟩ | ⟨hstays, hpart⟩⟩
  · refine Or.inl ⟨hexpected, ?_⟩
    have hresult : (loadConfig host o files env).result = .error { ending := .exit 1 } := by
      rw [hpart]
      rfl
    rw [runOn_of_unconfigured hresult, hpart]
    obtain ⟨w, hw, htext⟩ := exists_emit_refusalEvent o f
    exact ⟨rfl, rfl, rfl, rfl, level_refusalEvent f, w, hw, htext, written_singleton hw⟩
  · exact Or.inr ⟨hunexpected, runOn_of_ended hgiven h mapPath reportPath⟩
  · refine Or.inr ⟨hunexpected, ?_⟩
    have hresult : (loadConfig host o files env).result =
        .error { ending := .escape (.config f) } := by
      rw [hpart]
      rfl
    rw [runOn_of_unconfigured hresult, hpart]
    cases f with
    | ended g => exact absurd rfl (hstays g)
    | _ => rfl

/-- **Runs without a configuration.** A configuration is loaded, or fails to be with a fault that is
to be expected, unless it derails, which takes a file.  A run whose configuration fails with such a
fault has the status of failure and writes one event of an error; one whose configuration derails is
ended by the fault and writes nothing at all, save that words that end it have their say. -/
theorem run_unconfigured (host : Config.Host) (files : FileTree) (env : Environment)
    (given : Option Text) :
    (((∃ c, Config.load host files env given = .ok c) ∨
        ∃ f, Config.load host files env given = .error f ∧ f.Expected) ↔
      ¬ ∃ path f, given = some path ∧ Derails host files env path f) ∧
    ∀ argv o mapPath reportPath f, readOptions argv = .ok o → o.sourceMap = some mapPath →
      o.stackTrace = some reportPath → o.config = given.map .text →
      Config.load host files env given = .error f →
      (f.Expected → Refused o files f (run host argv files env)) ∧
      ((∃ path, given = some path ∧ Derails host files env path f) →
        run host argv files env = derailed files f) := by
  constructor
  · have hderails : (∃ path f, given = some path ∧ Derails host files env path f) ↔
        ∃ f, Config.load host files env given = .error f ∧ ¬ f.Expected := by
      rw [exists_comm]
      exact exists_congr fun f => Config.derails_iff.symm
    rw [hderails]
    cases Config.load host files env given with
    | error f => simp
    | ok c => simp
  · intro argv o mapPath reportPath f hread hmap hreport hconfig h
    have hgiven : o.config ≠ some .dropped := by
      rw [hconfig]
      cases given <;> simp
    have hload : Config.load host files env (o.config.bind Value.text?) = .error f := by
      rw [hconfig, ← h]
      cases given <;> rfl
    rw [← Config.derails_iff, and_iff_right h, run_of_readOptions hread hmap hreport]
    rcases runOn_cases_of_error hgiven hload (FilePath.normalize mapPath)
      (FilePath.normalize reportPath) with ⟨hexpected, hrefused⟩ | ⟨hunexpected, hrun⟩
    · exact ⟨fun _ => hrefused, fun hunexpected => absurd hexpected hunexpected⟩
    · exact ⟨fun hexpected => absurd hexpected hunexpected, fun _ => hrun⟩

/-! ### A file that is not there, and one that is no YAML -/

/-- A tree with a configuration that is no YAML. -/
def bracketTree : FileTree where
  items := [(["c.yaml".toList], .file (Utf8.encode ['[']))]

lemma load_bracketTree :
    Config.load plainHost bracketTree [] (some "c.yaml".toList) = .error (.yaml .document) := by
  cbv

theorem run_unconfigured_missing :
    Refused configOptions {} (.missing "c.yaml".toList) (run plainHost configArgv {} []) ∧
      run plainHost configArgv bracketTree [] =
        { ending := .escape (.config (.yaml .document)), files := bracketTree } := by
  have hmissing :
      Config.load plainHost {} [] (some "c.yaml".toList) = .error (.missing "c.yaml".toList) := by
    cbv
  constructor
  · obtain ⟨-, hruns⟩ := run_unconfigured plainHost {} [] (some "c.yaml".toList)
    exact (hruns _ _ _ _ _ readOptions_configArgv rfl rfl rfl hmissing).1 trivial
  · obtain ⟨-, hruns⟩ := run_unconfigured plainHost bracketTree [] (some "c.yaml".toList)
    refine (hruns _ _ _ _ _ readOptions_configArgv rfl rfl rfl load_bracketTree).2 ?_
    exact Config.derails_iff.1 ⟨load_bracketTree, id⟩

/-- A file with an open bracket is not loaded, with a fault that is not to be expected.  The run
that it is named to has no status, and writes not even an event. -/
theorem not_expected_bracket :
    (¬ ∀ host tree env given f, Config.load host tree env given = .error f → f.Expected) ∧
      (run plainHost configArgv bracketTree []).ending = .escape (.config (.yaml .document)) ∧
      (run plainHost configArgv bracketTree []).journal = [] := by
  have hrun : run plainHost configArgv bracketTree [] =
      { ending := .escape (.config (.yaml .document)), files := bracketTree } := by
    rw [run_of_readOptions readOptions_configArgv rfl rfl]
    have hgiven : configOptions.config ≠ some .dropped := by decide
    rcases runOn_cases_of_error hgiven load_bracketTree (FilePath.normalize "m".toList)
      (FilePath.normalize "t".toList) with ⟨hexpected, -⟩ | ⟨-, hrun⟩
    · exact hexpected.elim
    · exact hrun
  refine ⟨fun h => h _ _ _ _ _ load_bracketTree, ?_, ?_⟩
  · rw [hrun]
  · rw [hrun]

end Retrace.Command
