import Retrace.Proofs.Text.Pieces
import Retrace.Proofs.Trace.Block
import Retrace.Trace.Symbolication

/-!
# Which block is selected

The selected block is the first piece of the report that holds the marker (`selectBlock_eq_ok_iff`).
It stands between separators, or at an end of the report (`Bounded`), and holds none itself; so it
is its own only piece, and to select in it gives it back (`selectBlock_selected`).

A marker may come up across the end of a piece, and then its first place in the report tells nothing
about the block.  It does if the marker shares no character with the separator
(`exists_bounded_first`).  `selectBlock_first` has all of this.
-/

namespace Retrace.Trace

variable {marker separator report : Text} {b : Block}

/-- The first of some pieces that holds the marker, with the pieces before and after it. -/
structure Holds (marker separator report : Text) (before : List Text) (block : Text)
    (after : List Text) : Prop where
  blocks_eq : blocks separator report = before ++ block :: after
  unmarked : ∀ piece ∈ before, ¬ marker <:+: piece
  marked : marker <:+: block

/-- A block reaches on either side up to a separator, or to the end of the report. -/
structure Bounded (separator report lead block trail : Text) : Prop where
  report_eq : report = lead ++ block ++ trail
  before : lead = [] ∨ separator <:+ lead
  after : trail = [] ∨ separator <+: trail

lemma Holds.bounded (hne : separator ≠ []) {before after : List Text} {block : Text}
    (h : Holds marker separator report before block after) :
    Bounded separator report (Text.front separator before) block (Text.back separator after) where
  report_eq := by
    rw [← Text.join_around, ← h.blocks_eq]
    exact (Text.join_splitOn hne report).symm
  before := Text.front_eq_nil_or_suffix separator before
  after := Text.back_eq_nil_or_prefix separator after

/-- A block is selected exactly if it is the first piece that holds the marker. -/
theorem selectBlock_eq_ok_iff (hne : separator ≠ []) :
    selectBlock marker separator report = .ok b ↔ ∃ before after,
      Holds marker separator report before b.text after ∧ b.index = before.length ∧
        b.count = (before ++ b.text :: after).length := by
  constructor
  · intro h
    obtain ⟨-, before, after, hblocks, hbefore, hmarked⟩ := exists_of_selectBlock h
    have hsame := h.symm.trans (selectBlock_of_blocks hne hblocks hbefore hmarked)
    rw [Except.ok.inj hsame]
    exact ⟨before, after, ⟨hblocks, hbefore, hmarked⟩, rfl, rfl⟩
  · rintro ⟨before, after, hholds, hindex, hcount⟩
    obtain ⟨text, index, count⟩ := b
    obtain rfl : index = before.length := hindex
    obtain rfl : count = (before ++ text :: after).length := hcount
    exact selectBlock_of_blocks hne hholds.blocks_eq hholds.unmarked hholds.marked

lemma exists_selectBlock_iff_marked (hne : separator ≠ []) :
    (∃ b, selectBlock marker separator report = .ok b) ↔
      ∃ piece ∈ blocks separator report, marker <:+: piece := by
  constructor
  · rintro ⟨b, h⟩
    obtain ⟨before, after, hholds, -⟩ := (selectBlock_eq_ok_iff hne).1 h
    exact ⟨b.text, by simp [hholds.blocks_eq], hholds.marked⟩
  · intro hmarked
    obtain ⟨before, block, after, hblocks, hbefore, hblock⟩ := Text.exists_first_infix hmarked
    exact ⟨_, selectBlock_of_blocks hne hblocks hbefore hblock⟩

lemma Holds.not_infix (hne : separator ≠ []) {before after : List Text} {block : Text}
    (h : Holds marker separator report before block after) : ¬ separator <:+: block := by
  refine Text.not_infix_of_mem_splitOn hne (t := report) ?_
  rw [← blocks, h.blocks_eq]
  exact List.mem_append_right _ List.mem_cons_self

/-- To select in the selected block gives it back. -/
lemma selectBlock_selected (hne : separator ≠ []) {before after : List Text} {block : Text}
    (h : Holds marker separator report before block after) :
    selectBlock marker separator block = .ok { text := block, index := 0, count := 1 } := by
  have hblocks : blocks separator block = [] ++ block :: [] :=
    Text.splitOn_eq_singleton (h.not_infix hne)
  exact selectBlock_of_blocks hne hblocks (by simp) h.marked

/-- What follows the selection does not see the report. -/
lemma run_congr {other : Text} {b c : Block} (layout : Layout) (m : SourceMap)
    (hb : selectBlock marker separator report = .ok b)
    (hc : selectBlock marker separator other = .ok c) (htext : b.text = c.text) :
    Symbolication.run { marker, separator, layout } m report =
      Symbolication.run { marker, separator, layout } m other := by
  simp only [Symbolication.run, hb, hc]
  show (entries m (Symbolication.blockLines b.text)).bind _ = _
  rw [htext]
  rfl

/-- A marker that shares no character with the separator has its first place in the report in the
block. -/
lemma Holds.exists_first (hne : separator ≠ []) (hapart : ∀ c ∈ marker, c ∉ separator)
    {before after : List Text} {block : Text}
    (h : Holds marker separator report before block after) :
    ∃ lead early late trail, block = early ++ marker ++ late ∧
      Bounded separator report lead block trail ∧
      ∀ early' late', report = early' ++ marker ++ late' →
        (lead ++ early).length ≤ early'.length := by
  obtain ⟨early, late, hblock, hfirst⟩ :=
    Text.exists_first_of_front hne hapart h.unmarked h.marked (Text.back separator after)
  have hbounded := h.bounded hne
  refine ⟨_, early, late, _, hblock, hbounded, fun early' late' hsame => ?_⟩
  exact hfirst early' late' (hbounded.report_eq.symm.trans hsame)

/-- **The selected block.** Selection succeeds exactly if one of the pieces of the report holds the
marker, and fails for no other reason.  The block is the first such piece: it stands between
separators and holds none.  It is selected in itself, and so symbolicated as the report is.  A
marker that shares no character with the separator is selected where it comes up first. -/
theorem selectBlock_first (hne : separator ≠ []) (marker report : Text) :
    (∀ pieces, Text.Cut separator report pieces ↔ blocks separator report = pieces) ∧
    ((∃ b, selectBlock marker separator report = .ok b) ↔
      ∃ piece ∈ blocks separator report, marker <:+: piece) ∧
    (∀ fault, selectBlock marker separator report = .error fault → fault = .noBlock marker) ∧
    (∀ b, selectBlock marker separator report = .ok b →
      (∃ before after, Holds marker separator report before b.text after ∧
        Bounded separator report (Text.front separator before) b.text
          (Text.back separator after)) ∧
      ¬ separator <:+: b.text ∧
      selectBlock marker separator b.text = .ok { text := b.text, index := 0, count := 1 } ∧
      ∀ (layout : Layout) (m : SourceMap),
        Symbolication.run { marker, separator, layout } m report =
          Symbolication.run { marker, separator, layout } m b.text) ∧
    ((∀ c ∈ marker, c ∉ separator) →
      ((∃ b, selectBlock marker separator report = .ok b) ↔ marker <:+: report) ∧
      ∀ b, selectBlock marker separator report = .ok b →
        ∃ lead early late trail, b.text = early ++ marker ++ late ∧
          Bounded separator report lead b.text trail ∧
          ∀ early' late', report = early' ++ marker ++ late' →
            (lead ++ early).length ≤ early'.length) := by
  refine ⟨fun pieces => Text.cut_iff hne, exists_selectBlock_iff_marked hne, ?_, ?_, ?_⟩
  · intro fault h
    rcases selectBlock_cases hne marker report with ⟨b, hb⟩ | hnone
    · cases h.symm.trans hb
    · exact Except.error.inj (h.symm.trans hnone)
  · intro b hb
    obtain ⟨before, after, hholds, -⟩ := (selectBlock_eq_ok_iff hne).1 hb
    have hself := selectBlock_selected hne hholds
    exact ⟨⟨before, after, hholds, hholds.bounded hne⟩, hholds.not_infix hne, hself,
      fun layout m => run_congr layout m hb hself rfl⟩
  · intro hapart
    refine ⟨?_, fun b hb => ?_⟩
    · rw [exists_selectBlock_iff_marked hne]
      exact (Text.infix_iff_exists_mem_splitOn hne hapart).symm
    · obtain ⟨before, after, hholds, -⟩ := (selectBlock_eq_ok_iff hne).1 hb
      exact hholds.exists_first hne hapart

/-- A report with three line feeds after its first block, and two blocks that hold a marker. -/
def threeBlocks : Text := "a\n\n\nJs x\n\nJs y".toList

theorem selectBlock_first_threeBlocks :
    Text.Cut defaultSeparator threeBlocks ["a".toList, "\nJs x".toList, "Js y".toList] ∧
      selectBlock "Js".toList defaultSeparator "\nJs x".toList =
        .ok { text := "\nJs x".toList, index := 0, count := 1 } := by
  obtain ⟨hcut, -, -, hselected, -⟩ :=
    selectBlock_first defaultSeparator_ne_nil "Js".toList threeBlocks
  have hblock : selectBlock "Js".toList defaultSeparator threeBlocks =
      .ok { text := "\nJs x".toList, index := 1, count := 3 } := by decide
  obtain ⟨-, -, hself, -⟩ := hselected _ hblock
  exact ⟨(hcut _).2 (by decide), hself⟩

/-- A marker that shares a character with the separator may come up in a report and in no block. -/
example : "x\n\ny".toList <:+: "x\n\ny".toList ∧
    selectBlock "x\n\ny".toList defaultSeparator "x\n\ny".toList =
      .error (.noBlock "x\n\ny".toList) := by decide

end Retrace.Trace
