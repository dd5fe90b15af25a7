import Retrace.Proofs.Numeral
import Retrace.Proofs.SourceMap.Answers
import Retrace.Proofs.Trace.Reading
import Retrace.Proofs.Traversal
import Retrace.Trace.Layout

/-!
# How answers are printed

`rendering` says how the answer of a source map to a frame is printed.  For answers whose source is
a text and whose numbers are not too long to be written this is the line that `entryLine` gives
(`entryLine_resolved`), and a trace of such entries is printed without a fault (`print_eq_ok`).

A map all of whose origins are printable gives such answers only (`SourceMap.printable_of_resolve`).
The bound on the digits of an origin is strict, because lines are counted from zero in the map and
from one in the answer.
-/

namespace Retrace

/-! ## Printable answers -/

namespace SourceMap

/-- An origin whose source is a text or null, and whose position can be written. -/
structure Origin.Printable (o : Origin) : Prop where
  source : o.source = .null ∨ ∃ t, o.source = .text t
  line_length_lt : (Numeral.digits o.line).length < Numeral.digitLimit
  column_length_lt : (Numeral.digits o.column).length < Numeral.digitLimit

/-- The source of a position, if it is a text. -/
def Position.sourceText (p : Position) : Text := (Json.asText? p.source).getD []

/-- A position that can be printed in full. -/
structure Position.Printable (p : Position) : Prop where
  source : p.source = .text p.sourceText
  line_length_le : (Numeral.digits p.line.natAbs).length ≤ Numeral.digitLimit
  column_length_le : (Numeral.digits p.column.natAbs).length ≤ Numeral.digitLimit
  name_ne_nil : p.name ≠ some []

lemma Origin.Printable.position {o : Origin} (h : o.Printable) {p : Position}
    (hp : o.position? = some p) : p.Printable := by
  obtain ⟨hnull, rfl⟩ := Origin.position?_eq_some hp
  obtain ⟨t, ht⟩ := h.source.resolve_left hnull
  have hline : (Numeral.digits (o.line + 1)).length ≤ Numeral.digitLimit :=
    Numeral.length_digits_succ_le h.line_length_lt
  refine ⟨?_, ?_, h.column_length_lt.le, ?_⟩
  · simp [Position.sourceText, ht, Json.asText?]
  · exact hline
  · simp [Option.filter_eq_some_iff]

lemma printable_of_resolve {m : SourceMap} (h : ∀ o ∈ m.origins, o.Printable)
    {line column : Int} {p : Position} (hp : m.resolve line column = some p) : p.Printable := by
  obtain ⟨o, ho, hposition⟩ := exists_origin_of_resolve hp
  exact (h o ho).position hposition

end SourceMap

namespace Trace

open SourceMap (Position)

/-! ## Lines -/

/-- How the answer to a frame is printed: an unmapped frame as the line it was read from, a mapped
one with its name, if it has one, and its place in the sources. -/
def rendering (stem raw : Text) : Option Position → Text
  | none => "  ".toList ++ raw
  | some p =>
    let place := shortened stem p.sourceText ++ ':' :: Numeral.signedDigits p.line
      ++ ':' :: Numeral.signedDigits p.column
    match p.name with
    | none => "  at ".toList ++ place
    | some name => "  at ".toList ++ name ++ " (".toList ++ place ++ [')']

/-- The entry of a frame with the answer to it. -/
def resolvedEntry (raw : Text) : Option Position → Entry
  | none => .frame ⟨none, none, none, none, raw⟩
  | some p => .frame ⟨some p.source, some p.line, some p.column, p.name, raw⟩

lemma frameEntry_eq (m : SourceMap) (f : FrameLine) (raw : Text) :
    frameEntry m f raw = resolvedEntry raw (m.resolve f.line f.column) := by
  unfold frameEntry
  cases m.resolve f.line f.column <;> rfl

/-- The entry of a line is the line itself, or a frame with the answer to its position. -/
lemma entryOf_cases (m : SourceMap) (line : Text) :
    entryOf m line = .verbatim line ∨ ∃ g : FrameLine, FrameLine.read? line = .ok (some g) ∧
      entryOf m line = resolvedEntry line (m.resolve g.line g.column) := by
  unfold entryOf
  split
  · next g hread => exact Or.inr ⟨g, hread, frameEntry_eq m g line⟩
  · exact Or.inl rfl

lemma shownSource_text (stem t : Text) : shownSource stem (.text t) = .ok (shortened stem t) := by
  cases t with
  | nil => cases stem <;> rfl
  | cons c t => rfl

lemma shownNumber_some {n : Int} (h : (Numeral.digits n.natAbs).length ≤ Numeral.digitLimit) :
    shownNumber (some n) = .ok (Numeral.signedDigits n) := by
  rw [shownNumber, Numeral.write_of_length_le h]
  rfl

/-- A mapped frame whose source is a text and whose numbers can be written has a line. -/
lemma entryLine_mapped {line column : Int}
    (hline : (Numeral.digits line.natAbs).length ≤ Numeral.digitLimit)
    (hcolumn : (Numeral.digits column.natAbs).length ≤ Numeral.digitLimit)
    (stem source raw : Text) (name : Option Text) :
    entryLine stem (.frame ⟨some (.text source), some line, some column, name, raw⟩) =
      .ok (mappedLine name (shortened stem source) (Numeral.signedDigits line)
        (Numeral.signedDigits column)) := by
  simp only [entryLine, shownSource_text, shownNumber_some hline, shownNumber_some hcolumn]
  rfl

lemma entryLine_resolved {answer : Option Position} (h : ∀ p ∈ answer, p.Printable)
    (stem raw : Text) :
    entryLine stem (resolvedEntry raw answer) = .ok (rendering stem raw answer) := by
  cases answer with
  | none => rfl
  | some p =>
    have hp := h p rfl
    have hrun := entryLine_mapped hp.line_length_le hp.column_length_le stem p.sourceText raw p.name
    rw [← hp.source] at hrun
    rw [resolvedEntry, hrun]
    congr 1
    rcases hname : p.name with _ | _ | ⟨c, name⟩
    · simp [mappedLine, rendering, hname, indent]
    · exact absurd hname hp.name_ne_nil
    · simp [mappedLine, rendering, hname, indent]

/-! ## The stem -/

/-- The stem that a layout cuts from some sources that are texts. -/
def Layout.stemOf (l : Layout) (sources : List Text) : Text :=
  if l.shorten then textStem l.excluded sources else []

lemma mapM_asText?_eq_some_iff {sources : List Json} {texts : List Text} :
    sources.mapM Json.asText? = some texts ↔ sources = texts.map .text := by
  refine mapM_eq_some_iff_map fun v t => ?_
  cases v <;> simp [Json.asText?]

/-- The source of an entry is one of the sources of the trace. -/
lemma exists_text_of_mem {es : List Entry} {sources : List Text}
    (hsources : Entry.sources es = sources.map .text) {e : Entry} (he : e ∈ es) {v : Json}
    (hv : e.source? = some v) : ∃ s ∈ sources, v = .text s := by
  have hmem : v ∈ Entry.sources es := List.mem_filterMap.2 ⟨e, he, hv⟩
  rw [hsources] at hmem
  obtain ⟨s, hs, rfl⟩ := List.mem_map.1 hmem
  exact ⟨s, hs, rfl⟩

lemma stem_texts (excluded : Text) (sources : List Text) :
    stem excluded (sources.map .text) = .ok (textStem excluded sources) := by
  have hall : (sources.map Json.text).mapM Json.asText? = some sources :=
    mapM_asText?_eq_some_iff.2 rfl
  match sources with
  | [] | [_] => rfl
  | first :: second :: sources =>
    simp only [List.map_cons] at hall ⊢
    simp only [stem, hall]

/-- **Printing.** A trace whose sources are texts, and each of whose entries has a line under their
stem, is printed as these lines. -/
theorem print_eq_ok {l : Layout} {entries : List Entry} {sources lines : List Text}
    (hsources : Entry.sources entries = sources.map .text)
    (hlines : List.Forall₂ (fun e line => entryLine (l.stemOf sources) e = .ok line)
      entries lines) :
    l.print entries = .ok (Text.join ['\n'] lines) := by
  have hstem : l.stem entries = .ok (l.stemOf sources) := by
    unfold Layout.stem Layout.stemOf
    split
    · rw [hsources, stem_texts]
    · rfl
  have hall := mapM_eq_ok hlines
  rw [Layout.print, Layout.lines, hstem]
  change Except.map _ (entries.mapM (entryLine (l.stemOf sources))) = _
  rw [hall]
  rfl

end Trace

end Retrace
