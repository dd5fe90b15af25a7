import Retrace.Proofs.SourceMap.Decoding
import Retrace.Proofs.SourceMap.Spelling

/-!
# What is running is a total

Every number of a segment is relative to the last one of its kind, so what is running behind a
segment are the totals of the numbers so far (`runningAfter`): the column over the segments of the
line, the others over all segments.  A segment `Fits` if its totals are positions and numbers of
items that there are.

`decodeSegment_eq_ok_iff` says what one segment does to the totals, and when it does it.  From it
`decodeMappings_eq_ok_iff` derives, by induction over segments and lines, that mappings are decoded
exactly if all of their segments fit, and to which table.
-/

namespace Retrace.SourceMap

variable {sources : Sources} {names : List Text}

/-! ## Totals -/

/-- The sum of the numbers that segments have at a place.  A segment without the place adds
nothing. -/
def total (place : Nat) (segments : List (List Int)) : Int :=
  (segments.map fun fields => fields.getD place 0).sum

lemma total_concat (place : Nat) (segments : List (List Int)) (fields : List Int) :
    total place (segments ++ [fields]) = total place segments + fields.getD place 0 := by
  simp [total]

/-- What is running behind the segments `here` of a line and the segments `earlier` of the lines
before. -/
def runningAfter (earlier here : List (List Int)) : Running where
  column := total 0 here
  sourceId := total 1 (earlier ++ here)
  sourceLine := total 2 (earlier ++ here)
  sourceColumn := total 3 (earlier ++ here)
  nameId := total 4 (earlier ++ here)

lemma runningAfter_concat (earlier here : List (List Int)) (fields : List Int) :
    runningAfter earlier (here ++ [fields]) = (runningAfter earlier here).plus fields := by
  simp only [runningAfter, Running.plus, ← List.append_assoc, total_concat]

lemma runningAfter_newLine (earlier here : List (List Int)) :
    { runningAfter earlier here with column := 0 } = runningAfter (earlier ++ here) [] := by
  simp only [runningAfter, List.append_nil]
  rfl

/-! ## One segment -/

/-- A number is that of one of so many items. -/
def InRange (id : Int) (count : Nat) : Prop := 0 ≤ id ∧ id < count

/-- The number of sources that segments can refer to; sources under keys are none of them. -/
def Sources.count : Sources → Nat
  | .items sources => sources.length
  | .keyed _ | .uncountable => 0

/-- A segment with some numbers fits behind the segments `here` of its line and the segments
`earlier` of the lines before: it has one number or at least four, its totals are no negative
positions, and the source and the name that it sets are there. -/
structure Fits (sourceCount nameCount : Nat) (earlier here : List (List Int)) (fields : List Int) :
    Prop where
  length : fields.length = 1 ∨ 4 ≤ fields.length
  column : 0 ≤ total 0 (here ++ [fields])
  sourceLine : 0 ≤ total 2 (earlier ++ (here ++ [fields]))
  sourceColumn : 0 ≤ total 3 (earlier ++ (here ++ [fields]))
  source : 4 ≤ fields.length → InRange (total 1 (earlier ++ (here ++ [fields]))) sourceCount
  name : 5 ≤ fields.length → InRange (total 4 (earlier ++ (here ++ [fields]))) nameCount

/-- The token of a segment with some numbers, where `r` is running behind it. -/
def tokenFor (sources : Sources) (names : List Text) (r : Running) (fields : List Int) : Token where
  column := r.column.toNat
  origin := (referenceOf? sources names r fields).bind fun ref =>
    ref.source.map fun source =>
      { source, line := r.sourceLine.toNat, column := r.sourceColumn.toNat, name := ref.name }

lemma item?_isSome_iff {α : Type} {items : List α} {id : Int} :
    (item? items id).isSome = true ↔ InRange id items.length := by
  rw [item?, InRange]
  split
  · simp only [Option.isSome_none, Bool.false_eq_true, false_iff]
    omega
  · simp only [isSome_getElem?]
    omega

lemma Sources.at?_isSome_iff {id : Int} :
    (sources.at? id).isSome = true ↔ InRange id sources.count := by
  have hnone : ¬ InRange id 0 := by
    rintro ⟨hnonneg, hbelow⟩
    omega
  cases sources with
  | items sources => exact item?_isSome_iff
  | keyed count => exact iff_of_false (by simp [at?]) hnone
  | uncountable => exact iff_of_false (by simp [at?]) hnone

lemma referenceOf?_isSome_iff {r : Running} {fields : List Int} :
    (referenceOf? sources names r fields).isSome = true ↔
      (fields.length = 1 ∨ 4 ≤ fields.length) ∧
        (4 ≤ fields.length → InRange r.sourceId sources.count) ∧
        (5 ≤ fields.length → InRange r.nameId names.length) := by
  rw [referenceOf?, ← Sources.at?_isSome_iff, ← item?_isSome_iff]
  split_ifs with hone hshort hfour
  · simp [hone]
  · refine iff_of_false (by simp) ?_
    rintro ⟨hlength, -⟩
    omega
  · cases sources.at? r.sourceId <;> simp [hfour]
  · have hlong : 5 ≤ fields.length := by omega
    have hlength : 4 ≤ fields.length := by omega
    cases sources.at? r.sourceId <;> simp [hlong, hlength]

lemma fits_iff {earlier here : List (List Int)} {fields : List Int} {r : Running}
    (hr : r = runningAfter earlier (here ++ [fields])) :
    Fits sources.count names.length earlier here fields ↔
      (∃ ref, referenceOf? sources names r fields = some ref) ∧
        0 ≤ r.column ∧ 0 ≤ r.sourceLine ∧ 0 ≤ r.sourceColumn := by
  subst hr
  rw [← Option.isSome_iff_exists, referenceOf?_isSome_iff]
  constructor
  · intro h
    exact ⟨⟨h.length, h.source, h.name⟩, h.column, h.sourceLine, h.sourceColumn⟩
  · rintro ⟨⟨hlength, hsource, hname⟩, hcolumn, hline, hsourceColumn⟩
    exact ⟨hlength, hcolumn, hline, hsourceColumn, hsource, hname⟩

lemma tokenFor_of_referenceOf? {r : Running} {fields : List Int} {ref : Reference}
    (h : referenceOf? sources names r fields = some ref) :
    tokenFor sources names r fields = ⟨r.column.toNat, ref.source.map fun source =>
      ⟨source, r.sourceLine.toNat, r.sourceColumn.toNat, ref.name⟩⟩ := by
  rw [tokenFor, h]
  rfl

/-- **One segment.** A segment is decoded behind others exactly if its numbers are read and fit
there.  They are added to the totals, and its token stands at these. -/
theorem decodeSegment_eq_ok_iff {earlier here : List (List Int)} {segment : Text} {next : Running}
    {token : Token} (hne : segment ≠ []) :
    decodeSegment sources names (runningAfter earlier here) segment = .ok (next, token) ↔
      ∃ fields, Vlq.read segment = .ok fields ∧
        Fits sources.count names.length earlier here fields ∧
        next = runningAfter earlier (here ++ [fields]) ∧
        token = tokenFor sources names next fields := by
  constructor
  · intro h
    obtain ⟨fields, ref, hread, hadvance, htoken⟩ := exists_of_decodeSegment h
    have hfields : fields ≠ [] := Vlq.ne_nil_of_readFrom hread (Or.inl hne)
    obtain ⟨hnext, href⟩ := (advance_eq_ok_iff hfields).1 hadvance
    rw [← runningAfter_concat] at hnext
    obtain ⟨hnonneg, rfl⟩ := tokenOf_eq_ok_iff.1 htoken
    exact ⟨fields, hread, (fits_iff hnext).2 ⟨⟨ref, href⟩, hnonneg⟩, hnext,
      (tokenFor_of_referenceOf? href).symm⟩
  · rintro ⟨fields, hread, hfits, hnext, rfl⟩
    have hfields : fields ≠ [] := Vlq.ne_nil_of_readFrom hread (Or.inl hne)
    obtain ⟨⟨ref, href⟩, hnonneg⟩ := (fits_iff hnext).1 hfits
    have hadvance : advance sources names segment (runningAfter earlier here) fields =
        .ok (next, ref) :=
      (advance_eq_ok_iff hfields).2 ⟨by rw [hnext, runningAfter_concat], href⟩
    have htoken := tokenOf_eq_ok_iff.2 ⟨hnonneg, tokenFor_of_referenceOf? href⟩
    rw [decodeSegment, segmentFields_eq_ok_iff.2 hread]
    refine bind_eq_ok_iff.2 ⟨fields, rfl, bind_eq_ok_iff.2 ⟨(next, ref), hadvance, ?_⟩⟩
    exact bind_eq_ok_iff.2 ⟨_, htoken, rfl⟩

/-! ## All segments -/

/-- Every item of a list is right behind those before it. -/
def Stepwise {α : Type} (P : List α → α → Prop) (items : List α) : Prop :=
  ∀ before item after, items = before ++ item :: after → P before item

section Stepwise

variable {α : Type} {P : List α → α → Prop}

lemma stepwise_nil : Stepwise P [] := by
  intro before item after h
  simp at h

lemma stepwise_cons {item : α} {items : List α} :
    Stepwise P (item :: items) ↔ P [] item ∧ Stepwise (fun before => P (item :: before)) items := by
  constructor
  · intro h
    refine ⟨h [] item items rfl, ?_⟩
    rintro before other after rfl
    exact h (item :: before) other after rfl
  · rintro ⟨hitem, hitems⟩ before other after hsplit
    cases before with
    | nil =>
      obtain ⟨rfl, -⟩ := List.cons.inj hsplit
      exact hitem
    | cons first before =>
      obtain ⟨rfl, hrest⟩ := List.cons.inj hsplit
      exact hitems before other after hrest

end Stepwise

/-- All segments of a line fit, where the segments `earlier` stand on the lines before. -/
def LineFits (sourceCount nameCount : Nat) (earlier line : List (List Int)) : Prop :=
  Stepwise (Fits sourceCount nameCount earlier) line

/-- All segments of all lines fit. -/
def AllFit (sourceCount nameCount : Nat) (lines : List (List (List Int))) : Prop :=
  Stepwise (fun before line => LineFits sourceCount nameCount before.flatten line) lines

/-- The tokens of the segments of a line behind the segments `here`. -/
def tokensFor (sources : Sources) (names : List Text) (earlier : List (List Int)) :
    List (List Int) → List (List Int) → List Token
  | _, [] => []
  | here, fields :: line =>
    tokenFor sources names (runningAfter earlier (here ++ [fields])) fields ::
      tokensFor sources names earlier (here ++ [fields]) line

/-- The tokens of lines behind the segments `earlier`, line by line. -/
def tableFor (sources : Sources) (names : List Text) :
    List (List Int) → List (List (List Int)) → Table
  | _, [] => []
  | earlier, line :: lines =>
    tokensFor sources names earlier [] line :: tableFor sources names (earlier ++ line) lines

lemma decodeSegments_eq_ok_iff {earlier here : List (List Int)} {segments : List Text}
    {last : Running} {tokens : List Token} :
    decodeSegments sources names (runningAfter earlier here) segments = .ok (last, tokens) ↔
      ∃ line, List.Forall₂ (fun segment ns => Vlq.read segment = .ok ns)
          (segments.filter (!·.isEmpty)) line ∧
        Stepwise (fun passed => Fits sources.count names.length earlier (here ++ passed)) line ∧
        last = runningAfter earlier (here ++ line) ∧
        tokens = tokensFor sources names earlier here line := by
  induction segments generalizing here last tokens with
  | nil =>
    simp only [decodeSegments, List.filter_nil, List.forall₂_nil_left_iff, ↓existsAndEq, true_and,
      stepwise_nil, List.append_nil, tokensFor, Except.ok.injEq, Prod.mk.injEq]
    rw [eq_comm, @eq_comm _ []]
  | cons segment segments ih =>
    by_cases hempty : segment = []
    · subst hempty
      exact ih
    · have hkept : (segment :: segments).filter (!·.isEmpty) =
          segment :: segments.filter (!·.isEmpty) :=
        List.filter_cons_of_pos (by simpa using hempty)
      rw [decodeSegments, if_neg (by simpa using hempty), hkept]
      simp only [bind_eq_ok_iff, Prod.exists, decodeSegment_eq_ok_iff hempty,
        List.forall₂_cons_left_iff]
      constructor
      · rintro ⟨next, token, ⟨fields, hread, hfits, rfl, rfl⟩, last', rest, hrest, hpure⟩
        obtain ⟨line, hline, hlater, rfl, rfl⟩ := ih.1 hrest
        obtain ⟨rfl, rfl⟩ := Prod.mk.inj (Except.ok.inj hpure)
        refine ⟨fields :: line, ⟨fields, line, hread, hline, rfl⟩, ?_, ?_, rfl⟩
        · rw [stepwise_cons, List.append_nil]
          simpa using And.intro hfits hlater
        · simp
      · rintro ⟨line, ⟨fields, line, hread, hline, rfl⟩, hall, rfl, rfl⟩
        rw [stepwise_cons, List.append_nil] at hall
        obtain ⟨hfits, hlater⟩ := hall
        refine ⟨_, _, ⟨fields, hread, hfits, rfl, rfl⟩, runningAfter earlier
          (here ++ fields :: line), _, ih.2 ⟨line, hline, ?_, ?_, rfl⟩, rfl⟩
        · simpa using hlater
        · simp

lemma decodeLines_eq_ok_iff {earlier here : List (List Int)} {texts : List Text} {table : Table} :
    decodeLines sources names (runningAfter earlier here) texts = .ok table ↔
      ∃ lines, List.Forall₂ (fun text line =>
          List.Forall₂ (fun segment ns => Vlq.read segment = .ok ns) (segmentsOf text) line)
          texts lines ∧
        Stepwise (fun before => LineFits sources.count names.length
          (earlier ++ here ++ before.flatten)) lines ∧
        table = tableFor sources names (earlier ++ here) lines := by
  induction texts generalizing earlier here table with
  | nil =>
    simp only [decodeLines, List.forall₂_nil_left_iff, ↓existsAndEq, true_and, stepwise_nil,
      tableFor, Except.ok.injEq]
    exact eq_comm
  | cons text texts ih =>
    rw [decodeLines, runningAfter_newLine]
    simp only [bind_eq_ok_iff, Prod.exists, decodeSegments_eq_ok_iff, List.nil_append,
      List.forall₂_cons_left_iff]
    constructor
    · rintro ⟨_, _, ⟨line, hline, hfits, rfl, rfl⟩, rest, hrest, hpure⟩
      obtain ⟨lines, hlines, hlater, rfl⟩ := ih.1 hrest
      obtain rfl := Except.ok.inj hpure
      refine ⟨line :: lines, ⟨line, lines, hline, hlines, rfl⟩, ?_, rfl⟩
      rw [stepwise_cons]
      exact ⟨by simpa [LineFits] using hfits, by simpa using hlater⟩
    · rintro ⟨_, ⟨line, lines, hline, hlines, rfl⟩, hall, rfl⟩
      obtain ⟨hfits, hlater⟩ := stepwise_cons.1 hall
      refine ⟨_, _, ⟨line, hline, by simpa [LineFits] using hfits, rfl, rfl⟩, _,
        ih.2 ⟨lines, hlines, ?_, rfl⟩, rfl⟩
      simpa using hlater

/-- **Mappings.** Mappings are decoded exactly if numbers are read from them which all fit.  The
table has the tokens at their totals. -/
theorem decodeMappings_eq_ok_iff {mappings : Text} {table : Table} :
    decodeMappings sources names mappings = .ok table ↔
      ∃ lines, Reads mappings lines ∧ AllFit sources.count names.length lines ∧
        table = tableFor sources names [] lines := by
  have hstart : ({} : Running) = runningAfter [] [] := rfl
  rw [decodeMappings, hstart, decodeLines_eq_ok_iff]
  rfl

/-! ## Tokens and their segments -/

lemma exists_of_mem_tokensFor {earlier here line : List (List Int)} {token : Token}
    (h : token ∈ tokensFor sources names earlier here line) :
    ∃ passed fields later, line = passed ++ fields :: later ∧
      token = tokenFor sources names (runningAfter earlier (here ++ passed ++ [fields])) fields := by
  induction line generalizing here with
  | nil => cases h
  | cons fields line ih =>
    rcases List.mem_cons.1 h with rfl | h
    · exact ⟨[], fields, line, rfl, by rw [List.append_nil]⟩
    · obtain ⟨passed, other, later, rfl, rfl⟩ := ih h
      exact ⟨fields :: passed, other, later, rfl, by simp⟩

lemma exists_of_mem_tableFor {earlier : List (List Int)} {lines : List (List (List Int))}
    {token : Token} (h : token ∈ (tableFor sources names earlier lines).flatten) :
    ∃ before line after, lines = before ++ line :: after ∧
      token ∈ tokensFor sources names (earlier ++ before.flatten) [] line := by
  induction lines generalizing earlier with
  | nil => cases h
  | cons line lines ih =>
    rw [tableFor, List.flatten_cons] at h
    rcases List.mem_append.1 h with h | h
    · exact ⟨[], line, lines, rfl, by rwa [List.flatten_nil, List.append_nil]⟩
    · obtain ⟨before, other, after, rfl, hmem⟩ := ih h
      exact ⟨line :: before, other, after, rfl, by simpa using hmem⟩

/-- Numbers of a segment of mappings, behind the segments `here` of its line and the segments
`earlier` of the lines before. -/
def SegmentIn (mappings : Text) (earlier here : List (List Int)) (fields : List Int) : Prop :=
  ∃ before later after, Reads mappings (before ++ (here ++ fields :: later) :: after) ∧
    earlier = before.flatten

/-- Every token that is decoded is that of a segment which fits. -/
theorem exists_segment_of_decodeMappings {mappings : Text} {table : Table} {token : Token}
    (h : decodeMappings sources names mappings = .ok table) (htoken : token ∈ table.flatten) :
    ∃ earlier here fields, SegmentIn mappings earlier here fields ∧
      Fits sources.count names.length earlier here fields ∧
      token = tokenFor sources names (runningAfter earlier (here ++ [fields])) fields := by
  obtain ⟨lines, hreads, hfit, rfl⟩ := decodeMappings_eq_ok_iff.1 h
  obtain ⟨before, line, after, rfl, hline⟩ := exists_of_mem_tableFor htoken
  obtain ⟨here, fields, later, rfl, rfl⟩ := exists_of_mem_tokensFor hline
  exact ⟨before.flatten, here, fields, ⟨before, later, after, hreads, rfl⟩,
    hfit before _ after rfl here fields later rfl, rfl⟩

end Retrace.SourceMap
