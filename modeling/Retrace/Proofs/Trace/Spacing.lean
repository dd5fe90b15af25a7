import Retrace.Proofs.Trace.Block
import Retrace.Proofs.Trace.Leading

/-!
# Blank lines between blocks

A `SpacedReport` has one or more blank lines between its blocks.  The separator is one blank line,
and a run of line feeds is cut from its start two at a time, so an even number of blank lines leaves
a line feed at the head of the block behind them (`blocks_text`).

`Symbolication.run_spaced` says when the blank lines matter.  With an odd number of them before the
selected block symbolication gives what it gives for single blank lines, whatever the other gaps
are.  With an even number the block is read with an empty line in front, and its message is refused
as a stray line (`not_run_tight`).
-/

namespace Retrace.Trace

open FrameLine (Unshaped)

/-- A block with a beginning and an end of its own: it is not empty, holds no empty line and neither
starts nor ends with a line feed. -/
@[mk_iff]
structure Solid (block : Text) : Prop where
  ne_nil : block ≠ []
  no_emptyLine : ¬ defaultSeparator <:+: block
  opens : block.head? ≠ some '\n'
  closes : block.getLast? ≠ some '\n'

instance : DecidablePred Solid := fun _ => decidable_of_iff _ (solid_iff _).symm

/-! ## Reports with blank lines -/

/-- A block behind blank lines, one and `extra` more. -/
structure SpacedBlock where
  extra : Nat
  text : Text
deriving DecidableEq, Repr

namespace SpacedBlock

/-- What a gap leaves of itself at the head of the block behind it. -/
def lead (extra : Nat) : Text := if Even extra then [] else ['\n']

/-- The end of the line before a block, the blank lines, and the block. -/
def spaced (b : SpacedBlock) : Text := List.replicate (b.extra + 2) '\n' ++ b.text

/-- A block as it is cut out. -/
def opened (b : SpacedBlock) : Text := lead b.extra ++ b.text

/-- What is cut out up to the end of a block. -/
def pieces (b : SpacedBlock) : List Text := List.replicate (b.extra / 2) [] ++ [b.opened]

/-- The block behind a single blank line. -/
def tight (b : SpacedBlock) : SpacedBlock := { b with extra := 0 }

lemma opened_of_even {b : SpacedBlock} (h : Even b.extra) : b.opened = b.text := by
  rw [opened, lead, if_pos h, List.nil_append]

lemma opened_of_not_even {b : SpacedBlock} (h : ¬ Even b.extra) :
    b.opened = '\n' :: b.text := by
  rw [opened, lead, if_neg h, List.singleton_append]

lemma text_suffix_opened (b : SpacedBlock) : b.text <:+ b.opened := List.suffix_append _ _

/-- No empty line comes up at the head of a block, nor where it ends. -/
lemma clear_opened {b : SpacedBlock} (h : Solid b.text) :
    Text.Clear defaultSeparator b.opened := by
  refine Text.clear_lineFeeds_iff.2 ⟨?_, ?_⟩
  · by_cases heven : Even b.extra
    · rw [opened_of_even heven]
      exact h.no_emptyLine
    · rw [opened_of_not_even heven]
      intro hin
      rcases List.infix_cons_iff.1 hin with hstart | hlater
      · obtain ⟨rest, hrest⟩ := (List.prefix_cons_inj '\n').1 hstart
        apply h.opens
        rw [← hrest]
        rfl
      · exact h.no_emptyLine hlater
  · rw [opened, List.getLast?_append_of_ne_nil _ h.ne_nil]
    exact h.closes

end SpacedBlock

/-- A report of blocks with blank lines between them. -/
structure SpacedReport where
  first : Text
  later : List SpacedBlock
deriving DecidableEq, Repr

namespace SpacedReport

/-- The text of a report. -/
def text (r : SpacedReport) : Text := r.first ++ r.later.flatMap (·.spaced)

/-- The blocks of a report; nothing stands before the first. -/
def blocks (r : SpacedReport) : List SpacedBlock := { extra := 0, text := r.first } :: r.later

/-- The report with single blank lines. -/
def tight (r : SpacedReport) : SpacedReport := { r with later := r.later.map (·.tight) }

/-- Every block of a report has a beginning and an end of its own. -/
def IsSolid (r : SpacedReport) : Prop := ∀ b ∈ r.blocks, Solid b.text

instance (r : SpacedReport) : Decidable r.IsSolid :=
  inferInstanceAs (Decidable (∀ b ∈ r.blocks, Solid b.text))

/-- A block is the first that contains the marker as it is cut out. -/
def Selects (marker : Text) (r : SpacedReport) (s : SpacedBlock) : Prop :=
  ∃ before after, r.blocks = before ++ s :: after ∧
    (∀ b ∈ before, ¬ marker <:+: b.opened) ∧ marker <:+: s.opened

variable {marker : Text} {r : SpacedReport}

lemma blocks_tight (r : SpacedReport) : r.tight.blocks = r.blocks.map (·.tight) := rfl

lemma IsSolid.tight (h : r.IsSolid) : r.tight.IsSolid := by
  intro c hc
  rw [blocks_tight] at hc
  obtain ⟨b, hb, rfl⟩ := List.mem_map.1 hc
  exact h b hb

lemma Selects.mem {s : SpacedBlock} (h : r.Selects marker s) : s ∈ r.blocks := by
  obtain ⟨before, after, hblocks, -, -⟩ := h
  rw [hblocks]
  simp

lemma Selects.marked_opened {s : SpacedBlock} (h : r.Selects marker s) : marker <:+: s.opened := by
  obtain ⟨-, -, -, -, hmarked⟩ := h
  exact hmarked

lemma exists_selects (h : ∃ b ∈ r.blocks, marker <:+: b.text) : ∃ s, r.Selects marker s := by
  obtain ⟨b, hb, hmarked⟩ := h
  have hopened : marker <:+: b.opened := hmarked.trans b.text_suffix_opened.isInfix
  obtain ⟨before, s, after, hblocks, hbefore, hselected⟩ :=
    Text.exists_first_infix ⟨b, hb, hopened⟩
  exact ⟨s, before, after, hblocks, hbefore, hselected⟩

/-! ## Cutting -/

/-- A gap of line feeds is cut two at a time. -/
lemma splitOn_gap (n : Nat) {piece : Text} (h : Text.Clear defaultSeparator piece) (rest : Text) :
    Text.splitOn defaultSeparator (piece ++ List.replicate (n + 2) '\n' ++ rest) =
      piece :: (List.replicate (n / 2) [] ++
        Text.splitOn defaultSeparator (SpacedBlock.lead n ++ rest)) := by
  have hcut (rest : Text) := Text.splitOn_append_sep defaultSeparator_ne_nil h rest
  induction n using Nat.twoStepInduction generalizing piece with
  | zero => exact hcut rest
  | one =>
    have hgap : piece ++ List.replicate 3 '\n' ++ rest =
        piece ++ defaultSeparator ++ ('\n' :: rest) := by
      simp [defaultSeparator, List.replicate]
    rw [hgap, hcut]
    rfl
  | more n ih _ =>
    have hgap : piece ++ List.replicate (n + 2 + 2) '\n' ++ rest =
        piece ++ defaultSeparator ++ ([] ++ List.replicate (n + 2) '\n' ++ rest) := by
      simp [defaultSeparator, List.replicate]
    have hnil : Text.Clear defaultSeparator [] := Text.clear_nil defaultSeparator_ne_nil
    have hlead : SpacedBlock.lead (n + 2) = SpacedBlock.lead n := by
      simp [SpacedBlock.lead, Nat.even_add]
    rw [hgap, hcut, ih hnil (Text.splitOn_append_sep defaultSeparator_ne_nil hnil), hlead,
      Nat.add_div_right n Nat.two_pos, List.replicate_succ, List.cons_append]

lemma splitOn_spaced {piece : Text} (hpiece : Text.Clear defaultSeparator piece)
    {later : List SpacedBlock} (hlater : ∀ b ∈ later, Solid b.text) :
    Text.splitOn defaultSeparator (piece ++ later.flatMap (·.spaced)) =
      piece :: later.flatMap (·.pieces) := by
  induction later generalizing piece with
  | nil =>
    rw [List.flatMap_nil, List.append_nil, Text.splitOn_eq_singleton hpiece.not_infix,
      List.flatMap_nil]
  | cons b later ih =>
    have hopened := SpacedBlock.clear_opened (hlater b (by simp))
    have hrest := ih hopened fun c hc => hlater c (by simp [hc])
    rw [SpacedBlock.opened, List.append_assoc] at hrest
    rw [List.flatMap_cons, SpacedBlock.spaced, List.append_assoc, ← List.append_assoc,
      splitOn_gap b.extra hpiece, hrest, List.flatMap_cons, SpacedBlock.pieces, List.append_assoc,
      List.singleton_append, SpacedBlock.opened]

/-- Every two blank lines beyond the first leave an empty block, and one that is left over leaves a
line feed at the head of the block behind it. -/
theorem blocks_text (h : r.IsSolid) :
    Trace.blocks defaultSeparator r.text = r.blocks.flatMap (·.pieces) := by
  have hfirst : Text.Clear defaultSeparator r.first :=
    SpacedBlock.clear_opened (h { extra := 0, text := r.first } (by simp [blocks]))
  have hlater : ∀ b ∈ r.later, Solid b.text := fun b hb => h b (by simp [blocks, hb])
  have hpieces : SpacedBlock.pieces { extra := 0, text := r.first } = [r.first] := by
    simp [SpacedBlock.pieces, SpacedBlock.opened, SpacedBlock.lead]
  rw [Trace.blocks, text, splitOn_spaced hfirst hlater, blocks, List.flatMap_cons, hpieces,
    List.singleton_append]

/-! ## Selection -/

/-- Nothing that is cut out before the selected block contains the marker. -/
lemma unmarked_pieces {before after : List SpacedBlock} {s : SpacedBlock}
    (hblocks : r.blocks = before ++ s :: after) (hbefore : ∀ b ∈ before, ¬ marker <:+: b.opened)
    {t : Text} (ht : t ∈ before.flatMap (·.pieces) ++ List.replicate (s.extra / 2) []) :
    ¬ marker <:+: t := by
  cases before with
  | nil =>
    have hs : s = { extra := 0, text := r.first } := (List.cons.inj hblocks).1.symm
    rw [hs] at ht
    simp at ht
  | cons b before =>
    have hmarker : marker ≠ [] := by
      rintro rfl
      exact hbefore b (by simp) List.nil_infix
    have hnil : ¬ marker <:+: [] := fun hin => hmarker (List.infix_nil.1 hin)
    rcases List.mem_append.1 ht with ht | ht
    · obtain ⟨c, hc, ht⟩ := List.mem_flatMap.1 ht
      rcases List.mem_append.1 ht with ht | ht
      · rw [List.eq_of_mem_replicate ht]
        exact hnil
      · rw [List.mem_singleton.1 ht]
        exact hbefore c hc
    · rw [List.eq_of_mem_replicate ht]
      exact hnil

/-- Symbolication reads the selected block as it is cut out. -/
lemma run_of_selects (h : r.IsSolid) {s : SpacedBlock} (hs : r.Selects marker s) (m : SourceMap)
    (layout : Layout) :
    Symbolication.run { marker, layout } m r.text = blockTrace m layout s.opened := by
  obtain ⟨before, after, hblocks, hbefore, hmarked⟩ := hs
  have hpieces : Trace.blocks defaultSeparator r.text =
      (before.flatMap (·.pieces) ++ List.replicate (s.extra / 2) []) ++
        s.opened :: after.flatMap (·.pieces) := by
    rw [blocks_text h, hblocks, List.flatMap_append, List.flatMap_cons, SpacedBlock.pieces]
    simp only [List.append_assoc, List.singleton_append]
  have hselect := selectBlock_of_blocks defaultSeparator_ne_nil hpieces
    (fun t ht => unmarked_pieces hblocks hbefore ht) hmarked
  rw [Symbolication.run, hselect]
  rfl

/-- With single blank lines the first block with the marker is selected. -/
lemma Selects.tight {s : SpacedBlock} (hs : r.Selects marker s) (hmarked : marker <:+: s.text) :
    r.tight.Selects marker s.tight := by
  obtain ⟨before, after, hblocks, hbefore, -⟩ := hs
  refine ⟨before.map (·.tight), after.map (·.tight), ?_, ?_, hmarked⟩
  · rw [blocks_tight, hblocks, List.map_append, List.map_cons]
  · intro c hc hin
    obtain ⟨b, hb, rfl⟩ := List.mem_map.1 hc
    exact hbefore b hb (hin.trans b.text_suffix_opened.isInfix)

/-- A marker that does not start with a line feed does not use the one that a gap leaves. -/
lemma Selects.marked {s : SpacedBlock} (hs : r.Selects marker s)
    (hmarker : marker.head? ≠ some '\n') : marker <:+: s.text := by
  have hmarked := hs.marked_opened
  by_cases heven : Even s.extra
  · rw [← SpacedBlock.opened_of_even heven]
    exact hmarked
  · rw [SpacedBlock.opened_of_not_even heven] at hmarked
    rcases List.infix_cons_iff.1 hmarked with hstart | hlater
    · cases marker with
      | nil => exact List.nil_infix
      | cons c marker =>
        obtain ⟨rfl, -⟩ := List.cons_prefix_cons.1 hstart
        exact absurd rfl hmarker
    · exact hlater

end SpacedReport

/-- **Blank lines between blocks.** A report is symbolicated as with single blank lines between its
blocks if the number of blank lines before the selected block is odd.  If it is even, the first line
of the block is a stray line, unless it is a frame; then the trace of the block comes below an empty
line. -/
theorem Symbolication.run_spaced {r : SpacedReport} (h : r.IsSolid) {marker : Text}
    (hmarker : ∃ b ∈ r.blocks, marker <:+: b.text) (layout : Layout) (m : SourceMap) :
    ∃ s, r.Selects marker s ∧
      (marker.head? ≠ some '\n' →
        run { marker, layout } m r.tight.text = blockTrace m layout s.text) ∧
      (Even s.extra → run { marker, layout } m r.text = run { marker, layout } m r.tight.text) ∧
      (¬ Even s.extra → Unshaped (firstLine s.text) →
        run { marker, layout } m r.text = .error (.strayLine 2 (firstLine s.text))) ∧
      (¬ Even s.extra → ¬ Unshaped (firstLine s.text) →
        run { marker, layout } m r.text = underEmptyLine (blockTrace m layout s.text)) := by
  obtain ⟨s, hs⟩ := SpacedReport.exists_selects hmarker
  have hsolid := h s hs.mem
  have hrun := SpacedReport.run_of_selects h hs m layout
  have htight (hmarked : marker <:+: s.text) :
      run { marker, layout } m r.tight.text = blockTrace m layout s.text :=
    SpacedReport.run_of_selects h.tight (hs.tight hmarked) m layout
  have hlead := blockTrace_lineFeed m layout hsolid.ne_nil hsolid.opens
  refine ⟨s, hs, ?_, ?_, ?_, ?_⟩
  · intro hhead
    exact htight (hs.marked hhead)
  · intro heven
    have hmarked := hs.marked_opened
    rw [SpacedBlock.opened_of_even heven] at hrun hmarked
    rw [hrun, htight hmarked]
  · intro hodd hfirst
    rw [hrun, SpacedBlock.opened_of_not_even hodd]
    exact hlead.1 hfirst
  · intro hodd hfirst
    rw [hrun, SpacedBlock.opened_of_not_even hodd]
    exact hlead.2 hfirst

/-- A report with three blank lines before the trace and other numbers of them elsewhere. -/
def threeLinesReport : SpacedReport where
  first := "log".toList
  later := [⟨1, "thread\nmain".toList⟩, ⟨2, "JavascriptException: x\nf@1:0".toList⟩,
    ⟨5, "device".toList⟩]

theorem Symbolication.run_spaced_threeLines :
    threeLinesReport.IsSolid ∧ (∃ b ∈ threeLinesReport.blocks, defaultMarker <:+: b.text) ∧
      run {} (.regular []) threeLinesReport.text =
        run {} (.regular []) threeLinesReport.tight.text := by
  have hsolid : threeLinesReport.IsSolid := by decide
  have hmarker : ∃ b ∈ threeLinesReport.blocks, defaultMarker <:+: b.text := by decide
  refine ⟨hsolid, hmarker, ?_⟩
  obtain ⟨s, hs, -, heven, -, -⟩ := run_spaced hsolid hmarker {} (.regular [])
  have hmarked : ∀ b ∈ threeLinesReport.blocks, defaultMarker <:+: b.opened → Even b.extra := by
    decide
  exact heven (hmarked s hs.mem hs.marked_opened)

/-- Two blank lines before the trace. -/
def twoLinesReport : SpacedReport where
  first := "log".toList
  later := [⟨1, "JavascriptException: x\nf@1:0".toList⟩]

theorem not_run_tight :
    ¬ ∀ (r : SpacedReport) (marker : Text) (layout : Layout) (m : SourceMap), r.IsSolid →
      (∃ b ∈ r.blocks, marker <:+: b.text) →
      Symbolication.run { marker, layout } m r.text =
        Symbolication.run { marker, layout } m r.tight.text := by
  intro h
  have htwo := h twoLinesReport defaultMarker {} (.regular []) (by decide) (by decide)
  have hspaced : Symbolication.run {} (.regular []) twoLinesReport.text =
      .error (.strayLine 2 "JavascriptException: x".toList) := by cbv
  have htight : Symbolication.run {} (.regular []) twoLinesReport.tight.text =
      .ok "JavascriptException: x\n  f@1:0".toList := by cbv
  cases hspaced.symm.trans (htwo.trans htight)

end Retrace.Trace
