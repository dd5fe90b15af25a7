import Retrace.Proofs.Trace.Completeness

/-!
# A block that starts with an empty line

An empty first line of a block is the message of its trace, so the line behind it cannot be.
`blockTrace_lineFeed` says what becomes of the trace of a block when a line feed is put in front of
it: if the first line of the block was its message, that line is a stray one now; if it was a frame,
an empty line is printed in front of the trace, and the lines are counted from one more.
-/

namespace Retrace.Trace

open FrameLine (IsFrame Unshaped overlong?)
open Symbolication (blockLines)

variable (m : SourceMap)

/-- The symbolicated trace of a block. -/
def blockTrace (l : Layout) (block : Text) : Except Fault Text := do
  let es ← entries m (blockLines block)
  l.print es

/-- The first line of a block. -/
def firstLine (block : Text) : Text := (blockLines block).headD []

/-- A fault when one more line stands in front of the trace. -/
def Fault.oneLineLater : Fault → Fault
  | .strayLine number line => .strayLine (number + 1) line
  | f => f

/-- An outcome when an empty line stands in front of the trace. -/
def underEmptyLine : Except Fault Text → Except Fault Text
  | .ok out => .ok ('\n' :: out)
  | .error f => .error f.oneLineLater

/-! ## Reading -/

lemma entriesFrom_succ (index : Nat) (lines : List Text) :
    entriesFrom m .inFrames (index + 1) lines =
      (entriesFrom m .inFrames index lines).mapError Fault.oneLineLater := by
  induction lines generalizing index with
  | nil => rfl
  | cons line lines ih =>
    rcases FrameLine.line_cases line with hframe | hother | ⟨n, hover⟩
    · rw [entriesFrom_of_step m (step_of_isFrame m .inFrames (index + 1) hframe),
        entriesFrom_of_step m (step_of_isFrame m .inFrames index hframe), ih (index + 1)]
      cases entriesFrom m .inFrames (index + 1) lines <;> rfl
    · by_cases hblank : line = []
      · rw [hblank, entriesFrom_blank, entriesFrom_blank]
        rfl
      · rw [entriesFrom_of_step_error m (step_inFrames_of_unshaped m (index + 1) hother hblank),
          entriesFrom_of_step_error m (step_inFrames_of_unshaped m index hother hblank)]
        rfl
    · rw [entriesFrom_of_step_error m (step_of_overlong m .inFrames (index + 1) hover),
        entriesFrom_of_step_error m (step_of_overlong m .inFrames index hover)]
      rfl

/-- An empty first line is read as the message. -/
lemma entries_emptyLine (lines : List Text) :
    entries m ([] :: lines) =
      (entriesFrom m .inFrames 1 lines).map (.verbatim [] :: ·) := by
  have hpassed : Passed [[]] := ⟨Or.inr FrameLine.unshaped_nil, by simp⟩
  have hrun := entries_append m (by simp) hpassed lines
  rw [List.singleton_append, List.map_singleton, entryOf_of_unshaped m FrameLine.unshaped_nil,
    List.length_singleton] at hrun
  exact hrun

/-- A message behind an empty first line is a stray line. -/
lemma entries_emptyLine_of_unshaped {first : Text} (hfirst : Unshaped first) (hne : first ≠ [])
    (lines : List Text) :
    entries m ([] :: first :: lines) = .error (.strayLine 2 first) := by
  rw [entries_emptyLine,
    entriesFrom_of_step_error m (step_inFrames_of_unshaped m 1 hfirst hne)]
  rfl

/-- A trace without a message is read behind an empty first line as it is without one. -/
lemma entries_emptyLine_of_shaped {first : Text} (hfirst : ¬ Unshaped first)
    (lines : List Text) :
    entries m ([] :: first :: lines) =
      ((entries m (first :: lines)).mapError Fault.oneLineLater).map (.verbatim [] :: ·) := by
  rw [entries_emptyLine, entries]
  rcases FrameLine.line_cases first with hframe | hother | ⟨n, hover⟩
  · rw [entriesFrom_of_step m (step_of_isFrame m .inFrames 1 hframe),
      entriesFrom_of_step m (step_of_isFrame m .awaiting 0 hframe), entriesFrom_succ]
    cases entriesFrom m .inFrames (0 + 1) lines <;> rfl
  · exact absurd hother hfirst
  · rw [entriesFrom_of_step_error m (step_of_overlong m .inFrames 1 hover),
      entriesFrom_of_step_error m (step_of_overlong m .awaiting 0 hover)]
    rfl

/-! ## Printing -/

lemma lines_verbatim (l : Layout) (t : Text) (es : List Entry) :
    l.lines (.verbatim t :: es) = (l.lines es).map (t :: ·) := by
  have hstem : l.stem (.verbatim t :: es) = l.stem es := rfl
  rw [Layout.lines, Layout.lines, hstem]
  cases l.stem es with
  | error f => rfl
  | ok stem =>
    change (Entry.verbatim t :: es).mapM (entryLine stem) = (es.mapM (entryLine stem)).map (t :: ·)
    rw [List.mapM_cons]
    cases es.mapM (entryLine stem) <;> rfl

lemma lines_ne_nil {l : Layout} {es : List Entry} (hne : es ≠ []) {ls : List Text}
    (h : l.lines es = .ok ls) : ls ≠ [] := by
  obtain ⟨stem, -, hlines⟩ := bind_eq_ok_iff.1 h
  obtain ⟨e, es, rfl⟩ := List.exists_cons_of_ne_nil hne
  rw [List.mapM_cons] at hlines
  obtain ⟨line, -, hrest⟩ := bind_eq_ok_iff.1 hlines
  obtain ⟨rest, -, hpure⟩ := bind_eq_ok_iff.1 hrest
  obtain rfl := Except.ok.inj hpure
  exact List.cons_ne_nil _ _

lemma print_emptyLine (l : Layout) {es : List Entry} (hne : es ≠ []) :
    l.print (.verbatim [] :: es) = (l.print es).map ('\n' :: ·) := by
  rw [Layout.print, Layout.print, lines_verbatim]
  cases hlines : l.lines es with
  | error f => rfl
  | ok ls =>
    have hjoin : Text.join ['\n'] ([] :: ls) = [] ++ ['\n'] ++ Text.join ['\n'] ls :=
      Text.join_cons (lines_ne_nil hne hlines)
    exact congrArg Except.ok hjoin

lemma oneLineLater_of_stem {excluded : Text} {sources : List Json} {f : Fault}
    (h : stem excluded sources = .error f) : f.oneLineLater = f := by
  unfold stem at h
  repeat' split at h
  all_goals cases h <;> rfl

lemma oneLineLater_of_shownNumber {number : Option Int} {f : Fault}
    (h : shownNumber number = .error f) : f.oneLineLater = f := by
  cases number with
  | none => cases h
  | some n =>
    obtain ⟨fault, -, hfault⟩ := mapError_eq_error_iff.1 h
    rw [← hfault]
    rfl

lemma oneLineLater_of_shownSource {stem : Text} {source : Json} {f : Fault}
    (h : shownSource stem source = .error f) : f.oneLineLater = f := by
  unfold shownSource at h
  repeat' split at h
  all_goals cases h <;> rfl

lemma oneLineLater_of_entryLine {stem : Text} {e : Entry} {f : Fault}
    (h : entryLine stem e = .error f) : f.oneLineLater = f := by
  unfold entryLine at h
  split at h
  · cases h
  · split at h
    · cases h
    · rcases bind_eq_error_iff.1 h with hsource | ⟨source, -, hplace⟩
      · exact oneLineLater_of_shownSource hsource
      · rcases bind_eq_error_iff.1 hplace with hline | ⟨line, -, hrest⟩
        · exact oneLineLater_of_shownNumber hline
        · rcases bind_eq_error_iff.1 hrest with hcolumn | ⟨column, -, hpure⟩
          · exact oneLineLater_of_shownNumber hcolumn
          · cases hpure

/-- A fault in printing does not count lines. -/
lemma oneLineLater_of_print {l : Layout} {es : List Entry} {f : Fault}
    (h : l.print es = .error f) : f.oneLineLater = f := by
  rcases bind_eq_error_iff.1 (map_eq_error_iff.1 h) with hstem | ⟨stem, -, hlines⟩
  · rw [Layout.stem] at hstem
    split at hstem
    · exact oneLineLater_of_stem hstem
    · cases hstem
  · obtain ⟨-, e, -, -, -, hline⟩ := mapM_eq_error_iff.1 hlines
    exact oneLineLater_of_entryLine hline

/-! ## Blocks -/

lemma blockLines_lineFeed (block : Text) : blockLines ('\n' :: block) = [] :: blockLines block :=
  Text.splitOn_sep_append (by simp) block

lemma blockLines_eq_cons (block : Text) : ∃ rest, blockLines block = firstLine block :: rest := by
  obtain ⟨first, rest, hlines⟩ :=
    List.exists_cons_of_ne_nil (Text.splitOn_ne_nil (List.cons_ne_nil '\n' []) block)
  refine ⟨rest, ?_⟩
  rw [firstLine, blockLines, hlines]
  rfl

lemma ne_nil_of_entries {lines : List Text} {es : List Entry} (hne : lines ≠ [])
    (h : entries m lines = .ok es) : es ≠ [] := by
  rintro rfl
  rcases entries_written h with hall | ⟨after, -, hwritten⟩
  · exact hne hall.symm
  · exact hwritten rfl

/-- The first line of a block that does not start with a line feed is not empty. -/
lemma firstLine_ne_nil {block : Text} (hne : block ≠ []) (hopens : block.head? ≠ some '\n') :
    firstLine block ≠ [] := by
  intro hfirst
  obtain ⟨rest, hlines⟩ := blockLines_eq_cons block
  have hjoin := join_blockLines block
  rw [hlines, hfirst] at hjoin
  by_cases hrest : rest = []
  · rw [hrest, Text.join_singleton] at hjoin
    exact hne hjoin.symm
  · rw [Text.join_cons hrest] at hjoin
    rw [← hjoin] at hopens
    exact hopens rfl

/-- **An empty line before a trace.** Behind a line feed the first line of a block is a stray line,
unless it is a frame. -/
theorem blockTrace_lineFeed (l : Layout) {block : Text} (hne : block ≠ [])
    (hopens : block.head? ≠ some '\n') :
    (Unshaped (firstLine block) →
      blockTrace m l ('\n' :: block) = .error (.strayLine 2 (firstLine block))) ∧
    (¬ Unshaped (firstLine block) →
      blockTrace m l ('\n' :: block) = underEmptyLine (blockTrace m l block)) := by
  obtain ⟨rest, hlines⟩ := blockLines_eq_cons block
  rw [blockTrace, blockLines_lineFeed, blockTrace, hlines]
  constructor
  · intro hfirst
    rw [entries_emptyLine_of_unshaped m hfirst (firstLine_ne_nil hne hopens)]
    rfl
  · intro hfirst
    rw [entries_emptyLine_of_shaped m hfirst]
    cases hentries : entries m (firstLine block :: rest) with
    | error f => rfl
    | ok es =>
      change l.print (.verbatim [] :: es) = underEmptyLine (l.print es)
      rw [print_emptyLine l (ne_nil_of_entries m (by simp) hentries)]
      cases hprint : l.print es with
      | ok out => rfl
      | error f => rw [underEmptyLine, oneLineLater_of_print hprint, Except.map]

end Retrace.Trace
