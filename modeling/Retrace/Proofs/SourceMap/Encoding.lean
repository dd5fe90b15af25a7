import Retrace.Proofs.SourceMap.Vlq
import Retrace.Proofs.Text.Cutting
import Retrace.SourceMap.Mappings

/-!
# Mappings are decoded

A line of generated code is a list of segments, and `encode` writes lines as mappings the standard
way: every number relative to the last one of its kind, the generated column starting anew on
every line.  `decodeMappings_encode` says that `decodeMappings` undoes it.

The decoder and the encoder run through the same positions: what is running after a segment is the
position of the segment itself (`advance_numbers`), so nothing running is ever negative.
-/

namespace Retrace.SourceMap

/-! ## Segments -/

/-- A position in the sources, its line counted from zero, with a name or without. -/
structure Target (sources names : List Text) where
  source : Fin sources.length
  line : Nat
  column : Nat
  name : Option (Fin names.length)
deriving DecidableEq

/-- A generated column and, unless it stands for generated code only, its position in the
sources. -/
structure Segment (sources names : List Text) where
  column : Nat
  target : Option (Target sources names)
deriving DecidableEq

variable {sources names : List Text}

/-- The origin that a target stands for. -/
def Target.origin (t : Target sources names) : Origin where
  source := .text (sources.get t.source)
  line := t.line
  column := t.column
  name := t.name.map names.get

/-- The token that a segment stands for. -/
def Segment.token (s : Segment sources names) : Token where
  column := s.column
  origin := s.target.map Target.origin

/-! ## Encoding -/

/-- What the numbers of the next segment are relative to after a segment. -/
def Segment.after (r : Running) (s : Segment sources names) : Running :=
  match s.target with
  | none => { r with column := s.column }
  | some t => {
      column := s.column
      sourceId := t.source.val
      sourceLine := t.line
      sourceColumn := t.column
      nameId := (t.name.map fun n => (n.val : Int)).getD r.nameId }

/-- The numbers of a target: one for the source, two for the position, and one for a name. -/
def Target.numbers (r : Running) (t : Target sources names) : List Int :=
  (t.source.val - r.sourceId) :: (t.line - r.sourceLine) :: (t.column - r.sourceColumn) ::
    match t.name with
    | none => []
    | some n => [n.val - r.nameId]

/-- The numbers of a segment. -/
def Segment.numbers (r : Running) (s : Segment sources names) : List Int :=
  (s.column - r.column) ::
    match s.target with
    | none => []
    | some t => t.numbers r

/-- Encodes the segments of a line. -/
def encodeSegments : Running → List (Segment sources names) → List Text
  | _, [] => []
  | r, s :: segments => Vlq.writeAll (s.numbers r) :: encodeSegments (s.after r) segments

/-- Encodes lines. -/
def encodeLines : Running → List (List (Segment sources names)) → List Text
  | _, [] => []
  | r, line :: lines =>
    let r := { r with column := 0 }
    Text.join [','] (encodeSegments r line) :: encodeLines (line.foldl Segment.after r) lines

/-- The mappings of lines. -/
def encode (lines : List (List (Segment sources names))) : Text :=
  Text.join [';'] (encodeLines {} lines)

/-! ## One segment -/

lemma item?_natCast {α : Type} (items : List α) (n : Nat) : item? items n = items[n]? := by
  have hn : ¬ (n : Int) < 0 := by omega
  rw [item?, if_neg hn, Int.toNat_natCast]

lemma Sources.get_items (segment : Text) (n : Fin sources.length) :
    Sources.get (.items (sources.map .text)) segment n.val = .ok (.text (sources.get n)) := by
  have hitem : item? (sources.map Json.text) n.val = some (.text (sources.get n)) := by
    rw [item?_natCast, List.getElem?_map, List.getElem?_eq_getElem n.isLt]
    rfl
  simp only [Sources.get, hitem]

lemma nameOf_get (segment : Text) (n : Fin names.length) :
    nameOf names segment n.val = .ok (names.get n) := by
  have hitem : item? names n.val = some (names.get n) := by
    rw [item?_natCast, List.getElem?_eq_getElem n.isLt]
    rfl
  simp only [nameOf, hitem]

/-- What a segment sets besides what is running. -/
def Segment.reference (s : Segment sources names) : Reference where
  source := s.target.map fun t => .text (sources.get t.source)
  name := s.target.bind fun t => t.name.map names.get

/-- Adding the numbers of a segment to what is running leads to the segment itself. -/
lemma advance_numbers (segment : Text) (r : Running) (s : Segment sources names) :
    advance (.items (sources.map .text)) names segment r (s.numbers r) =
      .ok (s.after r, s.reference) := by
  have hadd (a b : Int) : a + (b - a) = b := by omega
  obtain ⟨column, target⟩ := s
  match target with
  | none => simp only [Segment.numbers, advance, hadd, Segment.after, Segment.reference,
      Option.map_none, Option.bind_none]
  | some ⟨source, line, sourceColumn, none⟩ =>
    simp only [Segment.numbers, Target.numbers, advance, hadd, Sources.get_items]
    rfl
  | some ⟨source, line, sourceColumn, some name⟩ =>
    simp only [Segment.numbers, Target.numbers, advance, hadd, Sources.get_items, nameOf_get]
    rfl

/-- The source line and column that are running are not negative. -/
def Running.Sound (r : Running) : Prop := 0 ≤ r.sourceLine ∧ 0 ≤ r.sourceColumn

lemma Running.Sound.after {r : Running} (h : r.Sound) (s : Segment sources names) :
    (s.after r).Sound := by
  obtain ⟨column, target⟩ := s
  cases target with
  | none => exact h
  | some t => exact ⟨Int.natCast_nonneg t.line, Int.natCast_nonneg t.column⟩

lemma Segment.column_after (r : Running) (s : Segment sources names) :
    (s.after r).column = s.column := by
  obtain ⟨column, target⟩ := s
  cases target <;> rfl

lemma tokenOf_after {r : Running} (h : r.Sound) (s : Segment sources names) :
    tokenOf (s.after r) s.reference = .ok s.token := by
  have hafter := h.after s
  have hcolumn := s.column_after r
  have hnot : ¬ ((s.after r).column < 0 ∨ (s.after r).sourceLine < 0 ∨
      (s.after r).sourceColumn < 0) := by
    have := hafter.1
    have := hafter.2
    omega
  rw [tokenOf, if_neg hnot]
  obtain ⟨column, target⟩ := s
  cases target with
  | none => rfl
  | some t => rfl

lemma decodeSegment_writeAll {r : Running} (h : r.Sound) (s : Segment sources names) :
    decodeSegment (.items (sources.map .text)) names r (Vlq.writeAll (s.numbers r)) =
      .ok (s.after r, s.token) := by
  have hfields : segmentFields (Vlq.writeAll (s.numbers r)) = .ok (s.numbers r) := by
    rw [segmentFields, Vlq.read_writeAll]
  rw [decodeSegment, hfields]
  change (advance _ names _ r (s.numbers r)).bind _ = _
  rw [advance_numbers]
  change (tokenOf (s.after r) s.reference).bind _ = _
  rw [tokenOf_after h]
  rfl

/-! ## Lines -/

lemma Segment.isEmpty_writeAll (r : Running) (s : Segment sources names) :
    (Vlq.writeAll (s.numbers r)).isEmpty = false := by
  rw [List.isEmpty_eq_false_iff]
  exact Vlq.writeAll_cons_ne_nil _ _

/-- What is running after a line, and its tokens. -/
lemma decodeSegments_encodeSegments {r : Running} (h : r.Sound)
    (line : List (Segment sources names)) :
    decodeSegments (.items (sources.map .text)) names r (encodeSegments r line) =
      .ok (line.foldl Segment.after r, line.map Segment.token) := by
  induction line generalizing r with
  | nil => rfl
  | cons s line ih =>
    have hempty : ¬ (Vlq.writeAll (s.numbers r)).isEmpty = true := by
      rw [s.isEmpty_writeAll r]
      exact Bool.false_ne_true
    rw [encodeSegments, decodeSegments, if_neg hempty, decodeSegment_writeAll h]
    change (decodeSegments _ names (s.after r) (encodeSegments (s.after r) line)).bind _ = _
    rw [ih (h.after s)]
    rfl

lemma Running.Sound.foldl {r : Running} (h : r.Sound) (line : List (Segment sources names)) :
    (line.foldl Segment.after r).Sound := by
  induction line generalizing r with
  | nil => exact h
  | cons s line ih => exact ih (h.after s)

lemma mem_alphabet_of_mem_encodeSegments {r : Running} {line : List (Segment sources names)}
    {piece : Text} {c : Char} (hpiece : piece ∈ encodeSegments r line) (hc : c ∈ piece) :
    c ∈ Vlq.alphabet := by
  induction line generalizing r with
  | nil => simp [encodeSegments] at hpiece
  | cons s line ih =>
    rw [encodeSegments, List.mem_cons] at hpiece
    rcases hpiece with rfl | hpiece
    · exact Vlq.mem_alphabet_of_mem_writeAll hc
    · exact ih hpiece

/-- The segments of a line are found again between its commas; a line without any is one empty
segment, which is passed over. -/
lemma decodeSegments_line {r : Running} (h : r.Sound) (line : List (Segment sources names)) :
    decodeSegments (.items (sources.map .text)) names r
        (Text.splitOn [','] (Text.join [','] (encodeSegments r line))) =
      .ok (line.foldl Segment.after r, line.map Segment.token) := by
  cases line with
  | nil => rfl
  | cons s line =>
    have hcomma : ∀ piece ∈ encodeSegments r (s :: line), ',' ∉ piece := by
      intro piece hpiece hc
      exact Vlq.comma_not_mem_alphabet (mem_alphabet_of_mem_encodeSegments hpiece hc)
    have hne : encodeSegments r (s :: line) ≠ [] := by
      rw [encodeSegments]
      exact List.cons_ne_nil _ _
    rw [Text.splitOn_join_singleton hne hcomma]
    exact decodeSegments_encodeSegments h (s :: line)

lemma decodeLines_encodeLines {r : Running} (h : r.Sound)
    (lines : List (List (Segment sources names))) :
    decodeLines (.items (sources.map .text)) names r (encodeLines r lines) =
      .ok (lines.map (·.map Segment.token)) := by
  induction lines generalizing r with
  | nil => rfl
  | cons line lines ih =>
    have hstart : ({ r with column := 0 } : Running).Sound := h
    have hline := decodeSegments_line hstart line
    have hlines := ih (hstart.foldl line)
    rw [encodeLines, decodeLines, hline]
    change (decodeLines _ names (line.foldl Segment.after { r with column := 0 })
      (encodeLines (line.foldl Segment.after { r with column := 0 }) lines)).bind _ = _
    rw [hlines]
    rfl

lemma not_mem_of_mem_encodeLines {r : Running} {lines : List (List (Segment sources names))}
    {piece : Text} (hpiece : piece ∈ encodeLines r lines) : ';' ∉ piece := by
  induction lines generalizing r with
  | nil => simp [encodeLines] at hpiece
  | cons line lines ih =>
    rw [encodeLines, List.mem_cons] at hpiece
    rcases hpiece with rfl | hpiece
    · intro hc
      rcases Text.mem_of_mem_join hc with hc | ⟨segment, hsegment, hc⟩
      · simp at hc
      · exact Vlq.semicolon_not_mem_alphabet (mem_alphabet_of_mem_encodeSegments hsegment hc)
    · exact ih hpiece

/-! ## Mappings -/

/-- The table of lines.  The mappings of no line are those of one line without segments. -/
def tableOf : List (List (Segment sources names)) → Table
  | [] => [[]]
  | line :: lines => (line :: lines).map (·.map Segment.token)

lemma getD_tableOf (lines : List (List (Segment sources names))) (k : Nat) :
    (tableOf lines).getD k [] = (lines.getD k []).map Segment.token := by
  cases lines with
  | nil => cases k <;> rfl
  | cons line lines =>
    rw [tableOf, List.getD_eq_getElem?_getD, List.getD_eq_getElem?_getD, List.getElem?_map]
    cases (line :: lines)[k]? <;> rfl

/-- **Round trip.** Encoded lines are decoded. -/
theorem decodeMappings_encode (lines : List (List (Segment sources names))) :
    decodeMappings (.items (sources.map .text)) names (encode lines) = .ok (tableOf lines) := by
  cases lines with
  | nil => rfl
  | cons line lines =>
    have hne : encodeLines {} (line :: lines) ≠ [] := by
      rw [encodeLines]
      exact List.cons_ne_nil _ _
    have hsound : ({} : Running).Sound := ⟨le_refl _, le_refl _⟩
    rw [decodeMappings, encode,
      Text.splitOn_join_singleton hne fun piece => not_mem_of_mem_encodeLines]
    exact decodeLines_encodeLines hsound (line :: lines)

end Retrace.SourceMap
