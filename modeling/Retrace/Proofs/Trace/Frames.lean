import Retrace.Proofs.SourceMap.Delegation
import Retrace.Proofs.SourceMap.Provenance
import Retrace.Proofs.Trace.Layout
import Retrace.Proofs.Trace.Reading

/-!
# Frames are all or nothing

The entries of a trace are those of its first lines, one each (`exists_of_entries`).  The entry of a
frame line is the frame with the answer of the map to its position, so a frame shows a position as a
whole or has no part of one.  `whole_or_unmapped` joins this to what a loaded map can answer.
-/

namespace Retrace

open SourceMap (Position WrittenIn)

namespace Frame

/-- A frame with no part of a position in the sources. -/
structure Unmapped (f : Frame) : Prop where
  source : f.source = none
  line : f.line = none
  column : f.column = none
  name : f.name = none

/-- A frame with all parts of a position in the sources. -/
structure Shows (f : Frame) (p : Position) : Prop where
  source : f.source = some p.source
  line : f.line = some p.line
  column : f.column = some p.column
  name : f.name = p.name

end Frame

namespace Trace

variable {m : SourceMap}

/-- A frame among the entries carries its line, and has the answer to the position there. -/
lemma exists_of_entryOf {line : Text} {f : Frame} (h : entryOf m line = .frame f) :
    f.raw = line ∧ ∃ g : FrameLine, FrameLine.read? line = .ok (some g) ∧
      (m.resolve g.line g.column = none ∧ f.Unmapped ∨
        ∃ p, m.resolve g.line g.column = some p ∧ f.Shows p) := by
  rcases entryOf_cases m line with hverbatim | ⟨g, hg, hresolved⟩
  · rw [hverbatim] at h
    cases h
  · rw [hresolved] at h
    cases hanswer : m.resolve g.line g.column with
    | none =>
      rw [hanswer] at h
      obtain rfl := Entry.frame.inj h
      exact ⟨rfl, g, hg, Or.inl ⟨hanswer, rfl, rfl, rfl, rfl⟩⟩
    | some p =>
      rw [hanswer] at h
      obtain rfl := Entry.frame.inj h
      exact ⟨rfl, g, hg, Or.inr ⟨p, hanswer, rfl, rfl, rfl, rfl⟩⟩

/-- **All or nothing.** Every frame of a trace is read from a line that it carries, the one in its
place.  It has no part of a position if the map does not answer to the position on that line, and
otherwise all of the answer: a source, a line counted from one, a column counted from zero and no
empty name, which are those that a segment in the text of the map refers to. -/
theorem whole_or_unmapped {path : Option Text} {t : Text} {lines : List Text} {es : List Entry}
    {i : Nat} {f : Frame} (hload : SourceMap.load path t = .ok m) (hread : entries m lines = .ok es)
    (hf : es[i]? = some (.frame f)) :
    lines[i]? = some f.raw ∧ ∃ g : FrameLine, FrameLine.read? f.raw = .ok (some g) ∧
      (m.resolve g.line g.column = none ∧ f.Unmapped ∨
        ∃ p, m.resolve g.line g.column = some p ∧ f.Shows p ∧ p.Whole ∧ WrittenIn t p) := by
  obtain ⟨before, after, rfl, rfl⟩ := exists_of_entries hread
  rw [List.getElem?_map, Option.map_eq_some_iff] at hf
  obtain ⟨line, hline, hentry⟩ := hf
  obtain ⟨hraw, g, hg, hanswer⟩ := exists_of_entryOf hentry
  obtain ⟨hi, -⟩ := List.getElem?_eq_some_iff.1 hline
  rw [hraw, List.getElem?_append_left hi]
  refine ⟨hline, g, hg, ?_⟩
  rcases hanswer with hunmapped | ⟨p, hanswer, hshows⟩
  · exact Or.inl hunmapped
  · exact Or.inr ⟨p, hanswer, hshows, SourceMap.whole_of_resolve hload hanswer,
      SourceMap.writtenIn_of_resolve hload hanswer⟩

/-- A trace with a frame that the map answers to, and one before the section that covers its
line. -/
def overhangingLines : List Text :=
  ["JavascriptException: x".toList, "f@1:7".toList, "g@2:1".toList]

/-- The frame that is answered to. -/
def mappedFrame : Frame := ⟨some (.text "a.js".toList), some 1, some 0, none, "f@1:7".toList⟩

/-- The frame that is not. -/
def unmappedFrame : Frame := ⟨none, none, none, none, "g@2:1".toList⟩

lemma entries_overhangingLines : entries SourceMap.overhanging overhangingLines =
    .ok [.verbatim "JavascriptException: x".toList, .frame mappedFrame, .frame unmappedFrame] := by
  cbv

theorem whole_or_unmapped_overhanging :
    overhangingLines[1]? = some mappedFrame.raw ∧ overhangingLines[2]? = some unmappedFrame.raw ∧
      ∃ p, mappedFrame.Shows p ∧ p.Whole ∧ WrittenIn SourceMap.overhangingText p := by
  obtain ⟨hmapped, g, -, ⟨-, hnone⟩ | ⟨p, -, hshows, hwhole, hwritten⟩⟩ :=
    whole_or_unmapped SourceMap.load_overhangingText entries_overhangingLines
      (i := 1) (f := mappedFrame) rfl
  · cases hnone.source
  · obtain ⟨hunmapped, -⟩ :=
      whole_or_unmapped SourceMap.load_overhangingText entries_overhangingLines
        (i := 2) (f := unmappedFrame) rfl
    exact ⟨hmapped, hunmapped, p, hshows, hwhole, hwritten⟩

end Trace

end Retrace
