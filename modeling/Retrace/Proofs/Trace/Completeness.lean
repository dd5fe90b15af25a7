import Retrace.Proofs.Trace.Block
import Retrace.Proofs.Trace.Reading
import Retrace.Proofs.Traversal
import Retrace.Trace.Symbolication

/-!
# No line of a trace is lost

The reading of a trace stops at an empty line and passes over whatever comes after it.  In a report
whose blocks are separated by an empty line nothing is passed over, for two reasons that lie in
different stages.  A block holds no separator, so an empty line that is not its first line is its
last one (`eq_nil_of_blockLines`).  And reading makes an entry of an empty first line
(`entries_written`), so only an empty last line ends it.

`Symbolication.run_complete` puts the two together: the entries of a trace that is symbolicated hold
all lines of the selected block in order, apart from an empty last line.
-/

namespace Retrace

/-- The line that an entry was read from. -/
def Entry.written : Entry → Text
  | .verbatim text => text
  | .frame f => f.raw

namespace Trace

open FrameLine (IsFrame Unshaped)

/-! ## Entries hold their lines -/

lemma written_frameEntry (m : SourceMap) (f : FrameLine) (raw : Text) :
    (frameEntry m f raw).written = raw := by
  rw [frameEntry]
  split <;> rfl

lemma written_entryOf (m : SourceMap) (line : Text) : (entryOf m line).written = line := by
  rw [entryOf]
  split
  · exact written_frameEntry m _ line
  · rfl

lemma map_written_entryOf (m : SourceMap) (lines : List Text) :
    (lines.map (entryOf m)).map Entry.written = lines := by
  rw [List.map_map]
  exact (List.map_congr_left fun line _ => written_entryOf m line).trans (List.map_id lines)

/-- Entries hold the first lines of a trace.  The others are those from an empty line on that is
not the first. -/
theorem entries_written {m : SourceMap} {lines : List Text} {es : List Entry}
    (h : entries m lines = .ok es) :
    es.map Entry.written = lines ∨
      ∃ after, lines = es.map Entry.written ++ [] :: after ∧ es.map Entry.written ≠ [] := by
  rcases entries_cases m lines with ⟨-, hrun⟩ | ⟨before, after, hlines, hne, -, hrun⟩ |
    ⟨before, line, after, -, -, -, -, -, hrun⟩ | ⟨before, line, after, n, -, -, -, hrun⟩
  · obtain rfl := Except.ok.inj (hrun.symm.trans h)
    exact Or.inl (map_written_entryOf m lines)
  · obtain rfl := Except.ok.inj (hrun.symm.trans h)
    refine Or.inr ⟨after, ?_, ?_⟩
    · rw [map_written_entryOf]
      exact hlines
    · rw [map_written_entryOf]
      exact hne
  · cases hrun.symm.trans h
  · cases hrun.symm.trans h

/-! ## Empty lines of a block -/

lemma join_blockLines (block : Text) : Text.join ['\n'] (Symbolication.blockLines block) = block :=
  Text.join_splitOn (by simp) block

/-- In a block without an empty line between others, an empty line after the first is the last. -/
lemma eq_nil_of_blockLines {block : Text} (hblock : ¬ defaultSeparator <:+: block)
    {before after : List Text} (hlines : Symbolication.blockLines block = before ++ [] :: after)
    (hne : before ≠ []) : after = [] := by
  by_contra hafter
  apply hblock
  have hjoin : block = Text.join ['\n'] before ++ ['\n'] ++ (['\n'] ++ Text.join ['\n'] after) := by
    rw [← join_blockLines block, hlines, Text.join_append hne (by simp), Text.join_cons hafter]
    rfl
  refine ⟨Text.join ['\n'] before, Text.join ['\n'] after, ?_⟩
  rw [hjoin]
  simp [defaultSeparator]

lemma entries_blockLines_written {m : SourceMap} {block : Text}
    (hblock : ¬ defaultSeparator <:+: block) {es : List Entry}
    (h : entries m (Symbolication.blockLines block) = .ok es) :
    es.map Entry.written = Symbolication.blockLines block ∨
      es.map Entry.written ++ [[]] = Symbolication.blockLines block ∧
        es.map Entry.written ≠ [] := by
  rcases entries_written h with hall | ⟨after, hlines, hne⟩
  · exact Or.inl hall
  · have hafter := eq_nil_of_blockLines hblock hlines hne
    rw [hafter] at hlines
    exact Or.inr ⟨hlines.symm, hne⟩

/-! ## Reports -/

lemma Symbolication.exists_of_run {s : Symbolication} {m : SourceMap} {report out : Text}
    (h : s.run m report = .ok out) :
    ∃ block es, selectBlock s.marker s.separator report = .ok block ∧
      entries m (blockLines block.text) = .ok es ∧ s.layout.print es = .ok out := by
  obtain ⟨block, hselect, hrest⟩ := bind_eq_ok_iff.1 h
  obtain ⟨es, hentries, hprint⟩ := bind_eq_ok_iff.1 hrest
  exact ⟨block, es, hselect, hentries, hprint⟩

/-- **No line is lost.** When a report with an empty line between its blocks is symbolicated, the
entries that are printed hold every line of the selected block in order, except for an empty last
line.  Joined again they are the block, with or without the line feed at its end, and the lines
that reading passed over are empty. -/
theorem Symbolication.run_complete {marker : Text} {layout : Layout} {m : SourceMap}
    {report out : Text} (h : run { marker, layout } m report = .ok out) :
    ∃ block es, selectBlock marker defaultSeparator report = .ok block ∧
      entries m (blockLines block.text) = .ok es ∧ layout.print es = .ok out ∧
      (es.map Entry.written = blockLines block.text ∧
          Text.join ['\n'] (es.map Entry.written) = block.text ∨
        es.map Entry.written ++ [[]] = blockLines block.text ∧
          Text.join ['\n'] (es.map Entry.written) ++ ['\n'] = block.text) ∧
      ∀ line ∈ (blockLines block.text).drop es.length, line = [] := by
  obtain ⟨block, es, hselect, hentries, hprint⟩ := exists_of_run h
  obtain ⟨hne, before, after, hblocks, -, -⟩ := exists_of_selectBlock hselect
  have hmem : block.text ∈ Text.splitOn defaultSeparator report := by
    rw [← blocks, hblocks]
    simp
  have hblock := Text.not_infix_of_mem_splitOn hne hmem
  refine ⟨block, es, hselect, hentries, hprint, ?_⟩
  rcases entries_blockLines_written hblock hentries with hall | ⟨hlast, hnonempty⟩
  · refine ⟨Or.inl ⟨hall, ?_⟩, ?_⟩
    · rw [hall]
      exact join_blockLines block.text
    · intro line hline
      rw [← hall, ← List.length_map Entry.written, List.drop_length] at hline
      cases hline
  · refine ⟨Or.inr ⟨hlast, ?_⟩, ?_⟩
    · rw [← Text.join_concat_nil hnonempty, hlast]
      exact join_blockLines block.text
    · intro line hline
      rw [← hlast, ← List.length_map Entry.written, List.drop_left] at hline
      exact List.mem_singleton.1 hline

/-- A report whose trace comes after two empty lines and ends in a line feed: its block begins and
ends with an empty line. -/
def gapReport : Text := "log\n\n\nf@1:0\nat g (x:1:9)\n".toList

/-- A map with a token at the start of its first line. -/
def gapMap : SourceMap := .regular [[⟨0, some ⟨.text "a.js".toList, 4, 2, some "f".toList⟩⟩]]

/-- The empty first line is printed, and only the empty last line is passed over. -/
theorem Symbolication.run_complete_gap :
    run { marker := "f@".toList } gapMap gapReport =
        .ok "\n  at f (a.js:5:2)\n  at f (a.js:5:2)".toList ∧
      ∃ block es, selectBlock "f@".toList defaultSeparator gapReport = .ok block ∧
        entries gapMap (blockLines block.text) = .ok es ∧
        ({} : Layout).print es = .ok "\n  at f (a.js:5:2)\n  at f (a.js:5:2)".toList ∧
        (es.map Entry.written = blockLines block.text ∧
            Text.join ['\n'] (es.map Entry.written) = block.text ∨
          es.map Entry.written ++ [[]] = blockLines block.text ∧
            Text.join ['\n'] (es.map Entry.written) ++ ['\n'] = block.text) ∧
        ∀ line ∈ (blockLines block.text).drop es.length, line = [] := by
  have hrun : run { marker := "f@".toList } gapMap gapReport =
      .ok "\n  at f (a.js:5:2)\n  at f (a.js:5:2)".toList := by cbv
  exact ⟨hrun, run_complete hrun⟩

end Trace

end Retrace
