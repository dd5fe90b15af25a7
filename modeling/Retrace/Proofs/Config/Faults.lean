import Retrace.Config.Load
import Retrace.Proofs.Traversal

/-!
# How the loading of a configuration fails

Whoever loads a configuration is told which faults to expect: that there is no file, or that
something in the file or in the environment is refused as a value (`Fault.Expected`).  Other faults
come through where a file is no configuration at all: the path leads to a directory, the text is no
YAML document, or its keys are not what names can be.  And they come through where its rules name
what is not there, or have words that end the program.  `Derails` lists them, and `derails_iff` says
that there are no more.
-/

namespace Retrace

/-- The faults of a value in a document that is otherwise sound: one that its type refuses. -/
def Yaml.Fault.OfValue : Yaml.Fault → Prop
  | .noCharacter | .numeral _ | .noInteger _ _ | .noReal _ | .calendar _ => True
  | .document | .tooGreat | .emptyNumber | .noTruth | .noMoment | .momentKind | .endless => False

/-- They are those with a wording of their own. -/
lemma Yaml.Fault.exists_message_iff {g : Yaml.Fault} :
    (∃ message, g.message? = some message) ↔ g.OfValue := by
  cases g <;> simp [message?, OfValue]

namespace Config

open Yaml (Value)

variable {host : Host} {tree : FileTree} {env : Environment} {path : Text} {f : Fault}

/-- The faults that are to be expected of a configuration: no file, or a value that is refused. -/
def Fault.Expected : Fault → Prop
  | .missing _ | .encoding _ | .unset _ | .problems _ | .sectionVariable _ | .conflict _ => True
  | .yaml g => g.OfValue
  | .file _ _ | .keyKind | .ruleKind | .noEncoding _ | .homeless | .ended _ | .broken => False

/-- Files cannot be used, and not because something is refused. -/
def FurtherFileFault.Escapes : FurtherFileFault → Prop
  | .tooLong _ | .kind | .noEncoding _ | .homeless => True
  | .zeroInName | .encoding | .noDirectory => False

/-- What is around a document cannot be used, and not because something is refused. -/
def FurtherFault.Escapes : FurtherFault → Prop
  | .files f => f.Escapes
  | .ended _ | .broken | .layer .uncut => True
  | .words | .lead | .layer .noJson | .unread => False

lemma FurtherFileFault.escapes_iff {g : FurtherFileFault} :
    g.Escapes ↔ ¬ g.fault.Expected := by
  cases g <;> simp [Escapes, fault, Fault.Expected, refusedWhole]

lemma FurtherFault.escapes_iff {g : FurtherFault} : g.Escapes ↔ ¬ g.fault.Expected := by
  cases g with
  | files g => exact g.escapes_iff
  | layer f => cases f <;> simp [Escapes, fault, Fault.Expected, refusedWhole]
  | _ => simp [Escapes, fault, Fault.Expected, refusedWhole]

/-- The text of the file at a path, with its line ends unified and its references to variables
replaced. -/
def HasText (tree : FileTree) (env : Environment) (path t : Text) : Prop :=
  ∃ bytes raw, tree.read (FilePath.normalize path) = .ok bytes ∧ Utf8.decode bytes = .ok raw ∧
    env.substitute (Text.unifyLineEnds raw) = .ok t

/-- The document in the file at a path. -/
def HasDocument (tree : FileTree) (env : Environment) (path : Text) (v : Value) : Prop :=
  ∃ t, HasText tree env path t ∧ Yaml.load documentDepth t = .ok v

/-- What makes the loading of the file at a path fail with a fault that is not expected. -/
inductive Derails (host : Host) (tree : FileTree) (env : Environment) (path : Text) : Fault → Prop
  /-- The path leads to a directory. -/
  | isDirectory (h : tree.read (FilePath.normalize path) = .error .isDirectory) :
    Derails host tree env path (.file (FilePath.normalize path) .isDirectory)
  /-- The path is too long. -/
  | nameTooLong (h : tree.read (FilePath.normalize path) = .error .nameTooLong) :
    Derails host tree env path (.file (FilePath.normalize path) .nameTooLong)
  /-- The text has no YAML value, for another reason than that a type refuses a value. -/
  | yaml {t : Text} {g : Yaml.Fault} (ht : HasText tree env path t)
    (hg : Yaml.load documentDepth t = .error g) (hvalue : ¬ g.OfValue) :
    Derails host tree env path (.yaml g)
  /-- A key of the document is no text. -/
  | key {fields : Fields} (h : HasDocument tree env path (.mapping fields true)) :
    Derails host tree env path .keyKind
  /-- A rule of the document has a value of a kind that it cannot have. -/
  | rule {fields : Fields} (h : HasDocument tree env path (.mapping fields false))
    (hrules : Rules.ofFields? fields = none) : Derails host tree env path .ruleKind
  /-- Files, directories, words or names that the rules of the document ask for cannot be used, for
  another reason than that something is refused. -/
  | further {fields : Fields} {r : Rules} {g : FurtherFault}
    (h : HasDocument tree env path (.mapping fields false))
    (hrules : Rules.ofFields? fields = some r)
    (haround : around host tree env r (ruleFields fields) (r.variablesOf (named env)) sections =
      .error g)
    (hescapes : g.Escapes) : Derails host tree env path g.fault

/-! ## Settings -/

lemma expected_of_checkConflict {c : Config} (h : checkConflict c = .error f) : f.Expected := by
  unfold checkConflict at h
  split at h
  · obtain rfl := Except.error.inj h
    exact trivial
  · cases h

lemma expected_of_ofEnvironment (h : ofEnvironment env = .error f) : f.Expected := by
  unfold ofEnvironment at h
  dsimp only at h
  split at h
  · obtain rfl := Except.error.inj h
    exact trivial
  · split at h
    · obtain rfl := Except.error.inj h
      exact trivial
    · exact expected_of_checkConflict h

lemma expected_of_ofAround {a : Around} {fields : Fields} (h : ofAround a fields = .error f) :
    f.Expected := by
  unfold ofAround at h
  dsimp only at h
  split at h
  · obtain rfl := Except.error.inj h
    exact trivial
  · exact expected_of_checkConflict h

lemma ofRules_unexpected_iff {r : Rules} {fields : Fields} :
    (ofRules host tree env r fields = .error f ∧ ¬ f.Expected) ↔
      ∃ g, around host tree env r (ruleFields fields) (r.variablesOf (named env)) sections =
        .error g ∧ g.Escapes ∧ g.fault = f := by
  unfold ofRules
  cases around host tree env r (ruleFields fields) (r.variablesOf (named env)) sections with
  | error g =>
    constructor
    · rintro ⟨⟨rfl⟩, hunexpected⟩
      exact ⟨g, rfl, FurtherFault.escapes_iff.2 hunexpected, rfl⟩
    · rintro ⟨_, ⟨rfl⟩, hescapes, rfl⟩
      exact ⟨rfl, FurtherFault.escapes_iff.1 hescapes⟩
  | ok a =>
    refine iff_of_false ?_ (by rintro ⟨_, ⟨⟩, -⟩)
    rintro ⟨h, hunexpected⟩
    exact hunexpected (expected_of_ofAround h)

lemma exists_of_layerOf_eq_error {read : SectionNames → Except SectionFault (Option Value)}
    {names : List SectionNames} {name : Text} {g : SectionFault}
    (h : layerOf read names = .error (name, g)) : ∃ s ∈ names, read s = .error g := by
  induction names with
  | nil => cases h
  | cons s names ih =>
    rw [layerOf] at h
    split at h
    · next g' hread =>
      obtain ⟨-, rfl⟩ := Prod.mk.inj (Except.error.inj h)
      exact ⟨s, List.mem_cons_self, hread⟩
    · split at h
      · next hrest =>
        obtain rfl := Except.error.inj h
        obtain ⟨other, hother, hread⟩ := ih hrest
        exact ⟨other, List.mem_cons_of_mem _ hother, hread⟩
      · cases h

/-- Where a text stands between names, they can be cut. -/
lemma variableLayer_ne_uncut {r : Rules} {vars : Variables} {name : Text}
    (hr : r.strangeNesting = none) : variableLayer r vars sections ≠ .error (name, .uncut) := by
  intro h
  obtain ⟨s, -, hread⟩ := exists_of_layerOf_eq_error h
  rw [Rules.readSection, Rules.meetsUncut, hr, if_neg (by simp)] at hread
  obtain ⟨_, -, hfault⟩ := mapError_eq_error_iff.1 hread
  cases hfault

/-- Without files, directories and words that set anything, only the variables of the environment
lie under a document, and nothing over it. -/
lemma around_eq_map {encoding : Encoding} {hasWords : Bool} {fields : Fields} {vars : Variables}
    (hwords : wordLayer host { hasWords } fields = .ok []) :
    around host tree env { encoding, hasWords } fields vars sections =
      ((variableLayer {} vars sections).mapError fun e => FurtherFault.layer e.2).map
        fun layer => ⟨[], [layer, [], []], []⟩ := by
  have hsame : wordLayer host { encoding, hasWords } fields = .ok [] := hwords
  have hlayer : variableLayer { encoding, hasWords } vars sections =
      variableLayer {} vars sections := rfl
  unfold around
  rw [hsame, hlayer]
  cases variableLayer {} vars sections <;> rfl

lemma ofFields_unexpected_iff {fields : Fields} :
    (ofFields host tree env fields = .error f ∧ ¬ f.Expected) ↔
      (Rules.ofFields? fields = none ∧ f = .ruleKind) ∨
        ∃ r g, Rules.ofFields? fields = some r ∧
          around host tree env r (ruleFields fields) (r.variablesOf (named env)) sections =
            .error g ∧ g.Escapes ∧ g.fault = f := by
  unfold ofFields
  cases Rules.ofFields? fields with
  | none =>
    constructor
    · rintro ⟨⟨rfl⟩, -⟩
      exact Or.inl ⟨rfl, rfl⟩
    · rintro (⟨-, rfl⟩ | ⟨_, _, ⟨⟩, -⟩)
      exact ⟨rfl, id⟩
  | some r => simp [ofRules_unexpected_iff]

lemma expected_of_ofFields_nil (h : ofFields host tree env [] = .error f) : f.Expected := by
  by_contra hunexpected
  rcases ofFields_unexpected_iff.1 ⟨h, hunexpected⟩ with ⟨hkind, -⟩ | ⟨r, g, hr, haround, hg, -⟩
  · cases hkind
  · obtain rfl : ({} : Rules) = r := Option.some.inj hr
    have hwords : wordLayer host { hasWords := false } (ruleFields []) = .ok [] := rfl
    have hlayer := map_eq_error_iff.1 ((around_eq_map hwords).symm.trans haround)
    obtain ⟨⟨name, further⟩, hvariables, rfl⟩ := mapError_eq_error_iff.1 hlayer
    cases further with
    | noJson => exact hg
    | uncut => exact variableLayer_ne_uncut rfl hvariables

/-! ## Documents -/

lemma ofDocument_unexpected_iff {v : Value} :
    (ofDocument host tree env v = .error f ∧ ¬ f.Expected) ↔
      (∃ fields, v = .mapping fields true ∧ f = .keyKind) ∨
        ∃ fields, v = .mapping fields false ∧ ofFields host tree env fields = .error f ∧
          ¬ f.Expected := by
  constructor
  · rintro ⟨h, hunexpected⟩
    unfold ofDocument at h
    split at h
    · exact absurd (expected_of_ofFields_nil h) hunexpected
    · split at h
      · next fields otherKeys _ =>
        split at h
        · next hother =>
          subst hother
          obtain rfl := Except.error.inj h
          exact Or.inl ⟨fields, rfl, rfl⟩
        · next hother =>
          obtain rfl : otherKeys = false := Bool.eq_false_iff.2 hother
          exact Or.inr ⟨fields, rfl, h, hunexpected⟩
      · obtain rfl := Except.error.inj h
        exact absurd trivial hunexpected
  · rintro (⟨fields, rfl, rfl⟩ | ⟨fields, rfl, h, hunexpected⟩)
    · exact ⟨rfl, id⟩
    · refine ⟨?_, hunexpected⟩
      cases fields with
      | nil => exact h
      | cons field fields => exact h

/-- A file has a text, or is not read as one: then the fault is to be expected unless the path leads
to a directory or is too long. -/
lemma documentAt_cases (tree : FileTree) (env : Environment) (path : Text) :
    (∃ t, HasText tree env path t ∧
      documentAt tree env path = (Yaml.load documentDepth t).mapError .yaml) ∨
    (¬ ∃ t, HasText tree env path t) ∧ ∃ f, documentAt tree env path = .error f ∧
      (f.Expected ∨ ∃ g, (g = .isDirectory ∨ g = .nameTooLong) ∧
        tree.read (FilePath.normalize path) = .error g ∧
        f = .file (FilePath.normalize path) g) := by
  unfold documentAt HasText
  dsimp only
  cases hread : tree.read (FilePath.normalize path) with
  | error g =>
    refine Or.inr ⟨by rintro ⟨t, bytes, raw, ⟨⟩, -⟩, ?_⟩
    cases g with
    | notFound => exact ⟨_, rfl, Or.inl trivial⟩
    | notDirectory => exact ⟨_, rfl, Or.inl trivial⟩
    | isDirectory => exact ⟨_, rfl, Or.inr ⟨_, Or.inl rfl, rfl, rfl⟩⟩
    | nameTooLong => exact ⟨_, rfl, Or.inr ⟨_, Or.inr rfl, rfl, rfl⟩⟩
    | zeroInPath => exact ⟨_, rfl, Or.inl trivial⟩
  | ok bytes =>
    dsimp only
    cases hdecode : Utf8.decode bytes with
    | error g =>
      refine Or.inr ⟨?_, _, rfl, Or.inl trivial⟩
      rintro ⟨t, _, raw, ⟨rfl⟩, hraw, -⟩
      rw [hdecode] at hraw
      cases hraw
    | ok raw =>
      dsimp only [readDocument]
      cases hsubstitute : env.substitute (Text.unifyLineEnds raw) with
      | error name =>
        refine Or.inr ⟨?_, _, rfl, Or.inl trivial⟩
        rintro ⟨t, _, _, ⟨rfl⟩, hraw, ht⟩
        obtain rfl := Except.ok.inj (hdecode.symm.trans hraw)
        rw [hsubstitute] at ht
        cases ht
      | ok t => exact Or.inl ⟨t, ⟨bytes, raw, rfl, hdecode, hsubstitute⟩, rfl⟩

lemma HasText.unique {t u : Text} (ht : HasText tree env path t) (hu : HasText tree env path u) :
    t = u := by
  obtain ⟨bytes, raw, hbytes, hraw, ht⟩ := ht
  obtain ⟨bytes', raw', hbytes', hraw', hu⟩ := hu
  obtain rfl := Except.ok.inj (hbytes.symm.trans hbytes')
  obtain rfl := Except.ok.inj (hraw.symm.trans hraw')
  exact Except.ok.inj (ht.symm.trans hu)

lemma documentAt_of_hasText {t : Text} (h : HasText tree env path t) :
    documentAt tree env path = (Yaml.load documentDepth t).mapError .yaml := by
  rcases documentAt_cases tree env path with ⟨u, hu, hdocument⟩ | ⟨hnone, -⟩
  · obtain rfl := h.unique hu
    exact hdocument
  · exact absurd ⟨t, h⟩ hnone

lemma documentAt_eq_ok_iff {v : Value} :
    documentAt tree env path = .ok v ↔ HasDocument tree env path v := by
  constructor
  · intro h
    rcases documentAt_cases tree env path with ⟨t, ht, hdocument⟩ | ⟨-, f, hfault, -⟩
    · exact ⟨t, ht, mapError_eq_ok_iff.1 (hdocument.symm.trans h)⟩
    · rw [h] at hfault
      cases hfault
  · rintro ⟨t, ht, hv⟩
    rw [documentAt_of_hasText ht, hv]
    rfl

lemma derails_of_documentAt (h : documentAt tree env path = .error f) (hunexpected : ¬ f.Expected) :
    Derails host tree env path f := by
  rcases documentAt_cases tree env path with ⟨t, ht, hdocument⟩ | ⟨-, g, hg, hcases⟩
  · obtain ⟨g, hg, rfl⟩ := mapError_eq_error_iff.1 (hdocument.symm.trans h)
    exact .yaml ht hg hunexpected
  · obtain rfl := Except.error.inj (h.symm.trans hg)
    rcases hcases with hexpected | ⟨g, rfl | rfl, hread, rfl⟩
    · exact absurd hexpected hunexpected
    · exact .isDirectory hread
    · exact .nameTooLong hread

/-! ## Loading -/

lemma load_eq_error_iff :
    load host tree env (some path) = .error f ↔ documentAt tree env path = .error f ∨
      ∃ v, HasDocument tree env path v ∧ ofDocument host tree env v = .error f := by
  rw [load]
  change (documentAt tree env path >>= ofDocument host tree env) = .error f ↔ _
  simp only [bind_eq_error_iff, documentAt_eq_ok_iff]

lemma Derails.not_expected (h : Derails host tree env path f) : ¬ f.Expected := by
  cases h with
  | yaml _ _ hvalue => exact hvalue
  | further _ _ _ hescapes => exact FurtherFault.escapes_iff.1 hescapes
  | _ => exact id

/-- **Unexpected faults.** Loading fails with a fault that is not expected only if a file is named,
and something makes its loading derail; and then it does. -/
theorem derails_iff {given : Option Text} :
    (load host tree env given = .error f ∧ ¬ f.Expected) ↔
      ∃ path, given = some path ∧ Derails host tree env path f := by
  constructor
  · rintro ⟨h, hunexpected⟩
    cases given with
    | none => exact absurd (expected_of_ofEnvironment h) hunexpected
    | some path =>
      refine ⟨path, rfl, ?_⟩
      rcases load_eq_error_iff.1 h with hdocument | ⟨v, hv, hfault⟩
      · exact derails_of_documentAt hdocument hunexpected
      · rcases ofDocument_unexpected_iff.1 ⟨hfault, hunexpected⟩ with
          ⟨fields, rfl, rfl⟩ | ⟨fields, rfl, hfields⟩
        · exact .key hv
        · rcases ofFields_unexpected_iff.1 hfields with
            ⟨hrules, rfl⟩ | ⟨r, g, hrules, haround, hescapes, rfl⟩
          · exact .rule hv hrules
          · exact .further hv hrules haround hescapes
  · rintro ⟨path, rfl, h⟩
    refine ⟨load_eq_error_iff.2 ?_, h.not_expected⟩
    cases h with
    | isDirectory h | nameTooLong h =>
      refine Or.inl ?_
      unfold documentAt
      dsimp only
      rw [h]
    | yaml ht hg _ =>
      refine Or.inl ?_
      rw [documentAt_of_hasText ht, hg]
      rfl
    | key h => exact Or.inr ⟨_, h, (ofDocument_unexpected_iff.2 (Or.inl ⟨_, rfl, rfl⟩)).1⟩
    | rule h hrules =>
      refine Or.inr ⟨_, h, (ofDocument_unexpected_iff.2 (Or.inr ⟨_, rfl, ?_⟩)).1⟩
      exact ofFields_unexpected_iff.2 (Or.inl ⟨hrules, rfl⟩)
    | further h hrules haround hescapes =>
      refine Or.inr ⟨_, h, (ofDocument_unexpected_iff.2 (Or.inr ⟨_, rfl, ?_⟩)).1⟩
      exact ofFields_unexpected_iff.2 (Or.inr ⟨_, _, hrules, haround, hescapes, rfl⟩)

/-! ## Words -/

/-- The document in the file at a path has words that end the program.  The files with variables
that its rules name are read before. -/
def Dismisses (host : Host) (tree : FileTree) (env : Environment) (path : Text) (g : Farewell) :
    Prop :=
  ∃ fields r, HasDocument tree env path (.mapping fields false) ∧
    Rules.ofFields? fields = some r ∧ (∃ vars, fileVariables host tree env r = .ok vars) ∧
    r.hasWords = true ∧ host.speak (ruleFields fields) = .ended g

variable {g : Farewell} {r : Rules} {fields : Fields}

lemma FurtherFault.fault_eq_ended_iff {further : FurtherFault} :
    further.fault = .ended g ↔ further = .ended g := by
  cases further with
  | files f => cases f <;> simp [fault, FurtherFileFault.fault, refusedWhole]
  | layer f => cases f <;> simp [fault, refusedWhole]
  | _ => simp [fault, refusedWhole]

lemma wordLayer_eq_ended_iff : wordLayer host r fields = .error (.ended g) ↔
    r.hasWords = true ∧ host.speak fields = .ended g := by
  unfold wordLayer
  cases r.hasWords with
  | false => simp
  | true => cases host.speak fields <;> simp

lemma mapError_ne_ended {α δ : Type} {k : δ → FurtherFault} (hk : ∀ e, k e ≠ .ended g)
    {x : Except δ α} : x.mapError k ≠ .error (.ended g) := by
  intro h
  obtain ⟨e, -, he⟩ := mapError_eq_error_iff.1 h
  exact hk e he

lemma checkLead_ne_ended : checkLead r ≠ .error (.ended g) := by
  unfold checkLead
  cases r.leadFits <;> simp

/-- Directories end no program. -/
lemma directoryLayer_ne_ended : directoryLayer host tree env r sections ≠ .error (.ended g) := by
  have hsection (directories : List Text) (s : SectionNames) :
      directorySection host tree r directories s ≠ .error (.ended g) := by
    intro h
    rcases bind_eq_error_iff.1 h with htext | ⟨text, -, h⟩
    · exact mapError_ne_ended nofun htext
    · cases text with
      | none => cases h
      | some t => exact mapError_ne_ended nofun h
  intro h
  rcases bind_eq_error_iff.1 h with hdirectories | ⟨found, -, h⟩
  · exact mapError_ne_ended nofun hdirectories
  rcases bind_eq_error_iff.1 h with hsections | ⟨_, -, h⟩
  · obtain ⟨_, s, _, -, -, hs⟩ := mapM_eq_error_iff.1 hsections
    rcases bind_eq_error_iff.1 hs with hs | ⟨_, -, hs⟩
    · exact hsection found s hs
    · cases hs
  · cases h

/-- The words of a document end the program once the files with variables have been read. -/
lemma around_eq_ended_iff {vars : Variables} :
    around host tree env r fields vars sections = .error (.ended g) ↔
      (∃ fileVars, fileVariables host tree env r = .ok fileVars) ∧ r.hasWords = true ∧
        host.speak fields = .ended g := by
  rw [← wordLayer_eq_ended_iff]
  constructor
  · intro h
    unfold around at h
    rcases bind_eq_error_iff.1 h with hfiles | ⟨fileVars, hfileVars, h⟩
    · exact absurd hfiles (mapError_ne_ended nofun)
    rcases bind_eq_error_iff.1 h with hwords | ⟨upper, -, h⟩
    · exact ⟨⟨fileVars, mapError_eq_ok_iff.1 hfileVars⟩, hwords⟩
    -- What comes after the words does not end the program.
    refine absurd h ?_
    intro h
    rcases bind_eq_error_iff.1 h with hlead | ⟨_, -, h⟩
    · exact checkLead_ne_ended hlead
    rcases bind_eq_error_iff.1 h with hlayer | ⟨_, -, h⟩
    · exact mapError_ne_ended nofun hlayer
    rcases bind_eq_error_iff.1 h with hlayer | ⟨_, -, h⟩
    · exact mapError_ne_ended nofun hlayer
    rcases bind_eq_error_iff.1 h with hdirectories | ⟨_, -, h⟩
    · exact directoryLayer_ne_ended hdirectories
    · cases h
  · rintro ⟨⟨fileVars, hfileVars⟩, hwords⟩
    unfold around
    rw [hfileVars, hwords]
    rfl

/-- **Words that end the program.** It is only by the words of a document that loading ends the
program, and then it does. -/
theorem load_eq_ended_iff {given : Option Text} :
    load host tree env given = .error (.ended g) ↔
      ∃ path, given = some path ∧ Dismisses host tree env path g := by
  have hunexpected : ¬ (Fault.ended g).Expected := id
  rw [← and_iff_left (a := load host tree env given = .error (.ended g)) hunexpected, derails_iff]
  refine exists_congr fun path => and_congr_right fun _ => ?_
  constructor
  · intro h
    generalize hf : Fault.ended g = f at h
    cases h with
    | further h hrules haround _ =>
      rw [FurtherFault.fault_eq_ended_iff.1 hf.symm] at haround
      obtain ⟨hfiles, hwords, hspeak⟩ := around_eq_ended_iff.1 haround
      exact ⟨_, _, h, hrules, hfiles, hwords, hspeak⟩
    | _ => cases hf
  · rintro ⟨fields, r, h, hrules, hfiles, hwords, hspeak⟩
    exact .further h hrules (around_eq_ended_iff.2 ⟨hfiles, hwords, hspeak⟩) trivial

end Config

end Retrace
