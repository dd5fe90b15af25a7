import Retrace.Proofs.Traversal
import Retrace.SourceMap.Basic

/-!
# How loading ends

A text is loaded as a map, or it is rejected and the fault carries the path that the text came from:
these are the outcomes that `Documented` admits.  One other outcome is left.  An offset of a section
may be an infinite number, which has no whole part, and then loading ends in an overflow that no
path goes with.

`load_documented_iff` says for which texts that happens.  Sections are read in the order in which
they are listed, so the overflow comes up exactly if a section with an infinite offset is reached:
every section before it can be read, and nothing that is read earlier in the section itself is
amiss (`readSection_eq_overflow_iff`).
-/

namespace Retrace.SourceMap

/-! ## Offsets -/

lemma wholeNumber_eq_overflow_iff {v : Json} :
    wholeNumber v = .error .overflow ↔ ∃ negative, v = .real (.infinite negative) := by
  constructor
  · intro h
    cases v with
    | real r =>
      cases r with
      | infinite negative => exact ⟨negative, rfl⟩
      | finite negative m e => cases h
      | notNumber => cases h
    | text t =>
      simp only [wholeNumber] at h
      split at h <;> cases h
    | _ => cases h
  · rintro ⟨negative, rfl⟩
    rfl

lemma mapError_fault_ne_overflow {α : Type} {x : Except Fault α} :
    x.mapError SectionFault.fault ≠ .error .overflow := by
  cases x with
  | error f => simp [Except.mapError]
  | ok a => simp [Except.mapError]

lemma sectionField_ne_overflow {key : Text} {v : Json} : sectionField key v ≠ .error .overflow :=
  mapError_fault_ne_overflow

lemma sectionField_eq_ok_iff {key : Text} {v w : Json} :
    sectionField key v = .ok w ↔ field key v = .ok w := mapError_eq_ok_iff

/-! ## Sections -/

/-- A section starts at an infinite line, or at a line that can be read and an infinite column. -/
def Boundless (s : Json) : Prop :=
  ∃ offset line, field "offset".toList s = .ok offset ∧ field "line".toList offset = .ok line ∧
    ((∃ negative, line = .real (.infinite negative)) ∨
      (∃ n, wholeNumber line = .ok n) ∧
        ∃ negative, field "column".toList offset = .ok (.real (.infinite negative)))

lemma readSection_eq_overflow_iff {s : Json} :
    readSection s = .error .overflow ↔ Boundless s := by
  simp only [readSection, bind_eq_error_iff, sectionField_ne_overflow, sectionField_eq_ok_iff,
    wholeNumber_eq_overflow_iff, mapError_fault_ne_overflow, false_or, Boundless]
  constructor
  · rintro ⟨offset, hoffset, line, hline, hinfinite | ⟨n, hn, column, hcolumn, hlater⟩⟩
    · exact ⟨offset, line, hoffset, hline, Or.inl hinfinite⟩
    · rcases hlater with ⟨negative, rfl⟩ | ⟨_, _, _, _, _, _, hpure⟩
      · exact ⟨offset, line, hoffset, hline, Or.inr ⟨⟨n, hn⟩, negative, hcolumn⟩⟩
      · cases hpure
  · rintro ⟨offset, line, hoffset, hline, hinfinite | ⟨⟨n, hn⟩, negative, hcolumn⟩⟩
    · exact ⟨offset, hoffset, line, hline, Or.inl hinfinite⟩
    · exact ⟨offset, hoffset, line, hline, Or.inr ⟨n, hn, _, hcolumn, Or.inl ⟨negative, rfl⟩⟩⟩

/-! ## Texts -/

/-- A text is one of an index map, and a boundless section comes up before any that cannot be
read. -/
def ReachesBoundless (t : Text) : Prop :=
  ∃ sections before s after, sectionsOf? t = some sections ∧
    members? sections = some (before ++ s :: after) ∧
    (∀ u ∈ before, ∃ v, readSection u = .ok v) ∧ Boundless s

lemma readSections_eq_overflow_iff {sections : Json} :
    readSections sections = .error .overflow ↔ ∃ before s after,
      members? sections = some (before ++ s :: after) ∧
        (∀ u ∈ before, ∃ v, readSection u = .ok v) ∧ Boundless s := by
  cases hmembers : members? sections with
  | none => simp [readSections, hmembers]
  | some items =>
    simp only [readSections, hmembers, map_eq_error_iff, mapM_eq_error_iff,
      readSection_eq_overflow_iff, Option.some.injEq]

lemma read_eq_overflow_iff {t : Text} : read t = .error .overflow ↔ ReachesBoundless t := by
  cases hsections : sectionsOf? t with
  | none => simp [read, hsections, ReachesBoundless, map_eq_error_iff, mapError_fault_ne_overflow]
  | some sections =>
    simp only [read, hsections, map_eq_error_iff, readSections_eq_overflow_iff, ReachesBoundless,
      Option.some.injEq, ↓existsAndEq, true_and]

/-! ## Outcomes -/

/-- The outcomes that loading a text from a path is documented to have: a map, or a rejection that
carries the path. -/
def Documented (path : Option Text) (outcome : Except LoadFault SourceMap) : Prop :=
  (∃ m, outcome = .ok m) ∨ ∃ f, outcome = .error (.rejected f path)

lemma not_documented_overflow (path : Option Text) : ¬ Documented path (.error .overflow) := by
  rintro (⟨m, h⟩ | ⟨f, h⟩)
  · cases h
  · cases h

/-- What is read is loaded, and a fault in reading is a rejection that carries the path. -/
lemma load_cases (path : Option Text) (t : Text) :
    (∃ m, read t = .ok m ∧ load path t = .ok m) ∨
    (∃ f, read t = .error (.fault f) ∧ load path t = .error (.rejected f path)) ∨
    (read t = .error .overflow ∧ load path t = .error .overflow) := by
  cases hread : read t with
  | ok m => exact Or.inl ⟨m, rfl, by rw [load, hread]; rfl⟩
  | error e =>
    cases e with
    | fault f => exact Or.inr (Or.inl ⟨f, rfl, by rw [load, hread]; rfl⟩)
    | overflow => exact Or.inr (Or.inr ⟨rfl, by rw [load, hread]; rfl⟩)

/-- **Documented outcomes.** Loading a text from a path ends in a map, or in a rejection that
carries the path, exactly if no boundless section is reached.  From a boundless section it ends in
an overflow. -/
theorem load_documented_iff (path : Option Text) (t : Text) :
    (Documented path (load path t) ↔ ¬ ReachesBoundless t) ∧
      (ReachesBoundless t → load path t = .error .overflow) := by
  rw [← read_eq_overflow_iff]
  rcases load_cases path t with ⟨m, hread, hload⟩ | ⟨f, hread, hload⟩ | ⟨hread, hload⟩
  · have hdocumented : Documented path (load path t) := Or.inl ⟨m, hload⟩
    have hnot : read t ≠ .error .overflow := by simp [hread]
    exact ⟨iff_of_true hdocumented hnot, fun h => absurd h hnot⟩
  · have hdocumented : Documented path (load path t) := Or.inr ⟨f, hload⟩
    have hnot : read t ≠ .error .overflow := by simp [hread]
    exact ⟨iff_of_true hdocumented hnot, fun h => absurd h hnot⟩
  · have hundocumented : ¬ Documented path (load path t) := by
      rw [hload]
      exact not_documented_overflow path
    exact ⟨iff_of_false hundocumented (not_not_intro hread), fun _ => hload⟩

/-- An index map with one section, whose line is too great for a binary64 number. -/
def farSectionText : Text :=
  "\x7b\"sections\":[\x7b\"offset\":\x7b\"line\":1e999,\"column\":0\x7d,".toList ++
    "\"map\":\x7b\"sources\":[],\"names\":[],\"mappings\":\"\"\x7d\x7d]\x7d".toList

/-- That map is loaded in no documented way. -/
theorem not_documented_farSection :
    load (some "main.js.map".toList) farSectionText = .error .overflow ∧
      ¬ Documented (some "main.js.map".toList)
        (load (some "main.js.map".toList) farSectionText) := by
  have hload : load (some "main.js.map".toList) farSectionText = .error .overflow := by cbv
  refine ⟨hload, ?_⟩
  rw [hload]
  exact not_documented_overflow _

end Retrace.SourceMap
