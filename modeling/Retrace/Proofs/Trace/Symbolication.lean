import Retrace.Proofs.Trace.Block
import Retrace.Proofs.Trace.Layout
import Retrace.Proofs.Trace.Reading
import Retrace.Trace.Symbolication

/-!
# The trace of a report

A `Report` is a crash report as it is put together: blocks, the trace with its message and its
frames one per line, and whatever follows the trace.  `Symbolication.run_report` says what
symbolication makes of the text of a report whose blocks are separated by an empty line.  Every
frame is rendered from the answer of the map to the position that was printed, whatever its name
and its file look like.

The proof follows the stages: the report is cut where it was joined (`Report.blocks_text`), the
lines of the trace are those that were printed (`Report.blockLines_traceText`), reading passes all
of them (`Report.passed_lines`), and their entries are printed without a fault.
-/

namespace Retrace.Trace

open SourceMap (Position)

/-- What follows the trace in a report: nothing, the end of its last line, or an empty line with
anything after it. -/
inductive Ending
  | none
  | lineEnd
  | blocks (more : Text)
deriving DecidableEq, Repr

/-- The text of an ending. -/
def Ending.text : Ending → Text
  | .none => []
  | .lineEnd => ['\n']
  | .blocks more => defaultSeparator ++ more

/-- A crash report around a trace. -/
structure Report where
  /-- The blocks before the trace. -/
  preceding : List Text
  /-- The message of the trace. -/
  header : Text
  frames : List PrintedFrame
  ending : Ending
deriving DecidableEq, Repr

namespace Report

/-- The lines of the trace of a report. -/
def lines (r : Report) : List Text := r.header :: r.frames.map (·.text)

/-- The text of the trace of a report. -/
def traceText (r : Report) : Text := Text.join ['\n'] r.lines

/-- The text of a report. -/
def text (r : Report) : Text :=
  Text.join defaultSeparator (r.preceding ++ [r.traceText]) ++ r.ending.text

/-- A report whose trace is the first block with the marker, under a message that is no frame, and
whose blocks end where the next empty line begins. -/
structure WellFormed (marker : Text) (r : Report) : Prop where
  marker_ne_nil : marker ≠ []
  preceding_unmarked : ∀ block ∈ r.preceding, ¬ marker <:+: block
  preceding_solid : ∀ block ∈ r.preceding, ¬ defaultSeparator <:+: block
  preceding_closed : ∀ block ∈ r.preceding, block.getLast? ≠ some '\n'
  header_marked : marker <:+: r.header
  header_no_lineFeed : '\n' ∉ r.header
  header_unshaped : FrameLine.Unshaped r.header
  frames_legible : ∀ f ∈ r.frames, f.Legible

variable {marker : Text} {r : Report}

/-! ## The lines of the trace -/

lemma lineFeed_not_mem_of_mem_lines (h : r.WellFormed marker) {line : Text}
    (hline : line ∈ r.lines) : '\n' ∉ line := by
  rcases List.mem_cons.1 hline with rfl | hframe
  · exact h.header_no_lineFeed
  · obtain ⟨f, hf, rfl⟩ := List.mem_map.1 hframe
    exact PrintedFrame.lineFeed_not_mem_text (h.frames_legible f hf)

lemma ne_nil_of_mem_lines (h : r.WellFormed marker) {line : Text} (hline : line ∈ r.lines) :
    line ≠ [] := by
  rcases List.mem_cons.1 hline with rfl | hframe
  · intro hnil
    have hmarked := h.header_marked
    rw [hnil, List.infix_nil] at hmarked
    exact h.marker_ne_nil hmarked
  · obtain ⟨f, -, rfl⟩ := List.mem_map.1 hframe
    exact f.text_ne_nil

lemma not_lineFeed_join {line : Text} (hfeed : '\n' ∉ line) (hne : line ≠ [])
    (lines : List Text) : ¬ ['\n'] <+: Text.join ['\n'] (line :: lines) ++ ['\n'] := by
  obtain ⟨c, line, rfl⟩ := List.exists_cons_of_ne_nil hne
  have hc : '\n' ≠ c := fun hc => hfeed (hc ▸ List.mem_cons_self)
  cases lines with
  | nil => simp [hc]
  | cons next lines =>
    rw [Text.join_cons (by simp)]
    simp [hc]

/-- No empty line comes up among lines that are not empty, nor where the last of them is ended. -/
lemma clear_join_lines {lines : List Text} (hfeed : ∀ line ∈ lines, '\n' ∉ line)
    (hne : ∀ line ∈ lines, line ≠ []) : Text.Clear defaultSeparator (Text.join ['\n'] lines) := by
  have hsep : defaultSeparator = ['\n', '\n'] := rfl
  rw [Text.Clear, hsep]
  induction lines with
  | nil => decide
  | cons line lines ih =>
    have hline : '\n' ∉ line := hfeed line (by simp)
    have hrest := ih (fun l hl => hfeed l (by simp [hl])) (fun l hl => hne l (by simp [hl]))
    cases lines with
    | nil =>
      rw [Text.join_singleton]
      intro hin
      have := Text.infix_of_infix_append hline hin
      revert this
      decide
    | cons next lines =>
      rw [Text.join_cons (by simp), List.append_assoc, List.append_assoc]
      intro hin
      have hfirst := not_lineFeed_join (hfeed next (by simp)) (hne next (by simp)) lines
      rcases List.infix_cons_iff.1 (Text.infix_of_infix_append hline hin) with hstart | hlater
      · exact hfirst ((List.prefix_cons_inj '\n').1 hstart)
      · exact hrest hlater

lemma passed_lines (h : r.WellFormed marker) : Passed r.lines := by
  refine ⟨Or.inr h.header_unshaped, fun line hline => ?_⟩
  obtain ⟨f, hf, rfl⟩ := List.mem_map.1 hline
  obtain ⟨g, hg, -, -⟩ := FrameLine.read?_printed (h.frames_legible f hf)
  exact ⟨g, hg⟩

/-! ## The block of the trace -/

/-- What the block of the trace holds after its last line: the end of that line or nothing. -/
def lineEnd (r : Report) : Text :=
  match r.ending with
  | .lineEnd => ['\n']
  | .none | .blocks _ => []

lemma blocks_text (h : r.WellFormed marker) :
    ∃ after, blocks defaultSeparator r.text =
      r.preceding ++ (r.traceText ++ r.lineEnd) :: after := by
  have hclear : Text.Clear defaultSeparator r.traceText :=
    clear_join_lines (fun _ => lineFeed_not_mem_of_mem_lines h) fun _ => ne_nil_of_mem_lines h
  have hsolid : ¬ defaultSeparator <:+: r.traceText ++ ['\n'] := hclear
  have hpreceding : ∀ block ∈ r.preceding, Text.Clear defaultSeparator block := by
    intro block hblock
    exact Text.clear_lineFeeds_iff.2
      ⟨h.preceding_solid block hblock, h.preceding_closed block hblock⟩
  have hcut := Text.splitOn_join_append (by decide) hpreceding r.traceText r.ending.text
  rw [text, blocks, hcut]
  cases hending : r.ending with
  | none =>
    refine ⟨[], ?_⟩
    rw [Ending.text, List.append_nil, lineEnd, hending, List.append_nil, Text.splitOn_eq_singleton]
    exact fun hin => hsolid (hin.trans (List.prefix_append _ _).isInfix)
  | lineEnd =>
    refine ⟨[], ?_⟩
    rw [Ending.text, lineEnd, hending, Text.splitOn_eq_singleton hsolid]
  | blocks more =>
    refine ⟨Text.splitOn defaultSeparator more, ?_⟩
    rw [Ending.text, lineEnd, hending, List.append_nil, ← List.append_assoc,
      Text.splitOn_append_sep (by decide) hclear]

lemma blockLines_traceText (h : r.WellFormed marker) :
    Symbolication.blockLines r.traceText = r.lines :=
  Text.splitOn_join_singleton (by simp [lines]) fun _ => lineFeed_not_mem_of_mem_lines h

/-- An ended last line leaves an empty line behind it. -/
lemma blockLines_traceText_lineFeed (h : r.WellFormed marker) :
    Symbolication.blockLines (r.traceText ++ ['\n']) = r.lines ++ [[]] := by
  have hjoin : r.traceText ++ ['\n'] = Text.join ['\n'] (r.lines ++ [[]]) := by
    rw [Text.join_concat_nil (by simp [lines]), traceText]
  rw [hjoin]
  refine Text.splitOn_join_singleton (by simp) fun line hline => ?_
  rcases List.mem_append.1 hline with hline | hline
  · exact lineFeed_not_mem_of_mem_lines h hline
  · simp [List.mem_singleton.1 hline]

lemma marked_block (h : r.WellFormed marker) : marker <:+: r.traceText ++ r.lineEnd := by
  have hheader : r.header <+: r.traceText := by
    rw [traceText, lines]
    cases r.frames with
    | nil => simp
    | cons f frames =>
      rw [List.map_cons, Text.join_cons (by simp), List.append_assoc]
      exact List.prefix_append _ _
  exact h.header_marked.trans (hheader.trans (List.prefix_append _ _)).isInfix

/-! ## Entries -/

/-- The answers of a map to the frames of a report. -/
def answers (m : SourceMap) (r : Report) : List (Option Position) :=
  r.frames.map fun f => m.resolve f.line f.column

/-- The sources of the mapped frames of a report. -/
def sources (m : SourceMap) (r : Report) : List Text :=
  (r.answers m).filterMap fun answer => answer.map (·.sourceText)

lemma entryOf_text (m : SourceMap) {f : PrintedFrame} (h : f.Legible) :
    entryOf m f.text = resolvedEntry f.text (m.resolve f.line f.column) := by
  obtain ⟨g, hg, hline, hcolumn⟩ := FrameLine.read?_printed h
  rw [entryOf, hg]
  simp only [frameEntry_eq, hline, hcolumn]

lemma entries_block (m : SourceMap) (h : r.WellFormed marker) :
    Trace.entries m (Symbolication.blockLines (r.traceText ++ r.lineEnd)) =
      .ok (r.lines.map (entryOf m)) := by
  have hpassed := passed_lines h
  cases hending : r.ending with
  | lineEnd =>
    rw [lineEnd, hending, blockLines_traceText_lineFeed h]
    exact entries_of_blank m (by simp [lines]) hpassed []
  | none | blocks more =>
    rw [lineEnd, hending, List.append_nil, blockLines_traceText h]
    exact entries_of_passed m hpassed

/-- The entries of the trace of a report. -/
def entries (m : SourceMap) (r : Report) : List Entry :=
  .verbatim r.header :: r.frames.map fun f => resolvedEntry f.text (m.resolve f.line f.column)

lemma map_entryOf_lines (m : SourceMap) (h : r.WellFormed marker) :
    r.lines.map (entryOf m) = r.entries m := by
  rw [entries, lines, List.map_cons, entryOf_of_unshaped m h.header_unshaped, List.map_map]
  congr 1
  refine List.map_congr_left fun f hf => ?_
  exact entryOf_text m (h.frames_legible f hf)

/-! ## The printed trace -/

/-- The printed lines of the trace of a report. -/
def renderings (m : SourceMap) (l : Layout) (r : Report) : List Text :=
  r.header :: r.frames.map fun f =>
    rendering (l.stemOf (r.sources m)) f.text (m.resolve f.line f.column)

lemma sources_entries {m : SourceMap} (hm : ∀ o ∈ m.origins, o.Printable) (r : Report) :
    Entry.sources (r.entries m) = (r.sources m).map .text := by
  rw [Entry.sources, entries, List.filterMap_cons_none rfl, sources, answers, List.filterMap_map,
    List.filterMap_map, List.map_filterMap]
  refine List.filterMap_congr fun f _ => ?_
  simp only [Function.comp_apply]
  cases hanswer : m.resolve f.line f.column with
  | none => rfl
  | some p =>
    have hsource := (SourceMap.printable_of_resolve hm hanswer).source
    simp only [resolvedEntry, Entry.source?, Option.map_some]
    rw [← hsource]

lemma print_entries {m : SourceMap} (hm : ∀ o ∈ m.origins, o.Printable) (l : Layout)
    (r : Report) : l.print (r.entries m) = .ok (Text.join ['\n'] (r.renderings m l)) := by
  refine print_eq_ok (r.sources_entries hm) (List.Forall₂.cons rfl ?_)
  rw [List.forall₂_map_left_iff, List.forall₂_map_right_iff, List.forall₂_same]
  intro f _
  exact entryLine_resolved (fun p hp => SourceMap.printable_of_resolve hm hp) _ _

end Report

/-- **The trace of a report.** A report with an empty line between its blocks is symbolicated as the
message of the trace and, for every frame, the rendering of the answer to the position that was
printed. -/
theorem Symbolication.run_report {marker : Text} {r : Report} (h : r.WellFormed marker)
    {m : SourceMap} (hm : ∀ o ∈ m.origins, o.Printable) (layout : Layout) :
    run { marker, layout } m r.text =
      .ok (Text.join ['\n'] (r.header :: r.frames.map fun f =>
        rendering (layout.stemOf (r.sources m)) f.text (m.resolve f.line f.column))) := by
  obtain ⟨after, hblocks⟩ := Report.blocks_text h
  have hselect := selectBlock_of_blocks (by decide) hblocks h.preceding_unmarked
    (Report.marked_block h)
  have hentries := Report.entries_block m h
  rw [Report.map_entryOf_lines m h] at hentries
  rw [run, hselect]
  change (Trace.entries m (blockLines (r.traceText ++ r.lineEnd))).bind layout.print = _
  rw [hentries]
  exact Report.print_entries hm layout r

/-! ### A report with frames of all three shapes -/

/-- A report whose names and files contain the marks of the shapes.  The last frame lies on a line
without tokens. -/
def shapesReport : Report where
  preceding := ["native\nthread".toList, "\nlog".toList]
  header := "JavascriptException: a@1".toList
  frames := [
    ⟨.symbolAt, "at f@3:4".toList, [], 1, 3⟩,
    ⟨.fileAt, [], "x@1:2".toList, 1, 9⟩,
    ⟨.symbolInFile, "new (f".toList, "b (2)".toList, 7, 0⟩]
  ending := .blocks "\nrest".toList

/-- A map with two tokens on its first line. -/
def shapesMap : SourceMap :=
  .regular [[
    ⟨0, some ⟨.text "src/a.js".toList, 4, 2, some "render".toList⟩⟩,
    ⟨5, some ⟨.text "src/b.js".toList, 0, 0, some []⟩⟩]]

theorem Symbolication.run_report_shapes :
    run {} shapesMap shapesReport.text =
      .ok ("JavascriptException: a@1\n  at render (./a.js:5:2)\n  at ./b.js:1:0\n"
        ++ "  at new (f (b (2):7:0)").toList := by
  have hframes : ∀ f ∈ shapesReport.frames, f.Legible := by decide
  have h : shapesReport.WellFormed defaultMarker :=
    { marker_ne_nil := by decide
      preceding_unmarked := by decide
      preceding_solid := by decide
      preceding_closed := by decide
      header_marked := by decide
      header_no_lineFeed := by decide
      header_unshaped := by rw [FrameLine.Unshaped]; cbv
      frames_legible := hframes }
  have hm : ∀ o ∈ shapesMap.origins, o.Printable := by
    intro o ho
    have : o = ⟨.text "src/a.js".toList, 4, 2, some "render".toList⟩ ∨
        o = ⟨.text "src/b.js".toList, 0, 0, some []⟩ := by
      simpa [shapesMap, SourceMap.origins, SourceMap.tables] using ho
    rcases this with rfl | rfl <;> exact ⟨Or.inr ⟨_, rfl⟩, by decide, by decide⟩
  have hrun := Symbolication.run_report h hm {}
  rw [hrun]
  cbv

end Retrace.Trace
