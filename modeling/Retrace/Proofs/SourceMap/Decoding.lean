import Retrace.Proofs.Traversal
import Retrace.SourceMap.Basic

/-!
# What a loaded map was decoded from

A text that is loaded as a regular map has mappings (`HasMappings`), and the lines of the map are
decoded from the lines of the mappings one by one (`exists_mappings_of_load`).  A line is decoded
segment by segment (`exists_of_decodeSegments_cons`), and every segment adds its numbers to what is
running (`advance_eq_ok_iff`).  A text that is loaded as an index map lists its sections
(`exists_listed_of_load`), and each has a regular map of its own (`exists_map_of_readSection`).
-/

namespace Retrace.SourceMap

variable {sources : Sources} {names : List Text}

/-! ## Segments -/

lemma segmentFields_eq_ok_iff {segment : Text} {fields : List Int} :
    segmentFields segment = .ok fields ↔ Vlq.read segment = .ok fields := by
  unfold segmentFields
  cases Vlq.read segment with
  | ok fields => simp
  | error f => cases f <;> simp

/-- What is running after the numbers of one more segment. -/
def Running.plus (r : Running) (fields : List Int) : Running where
  column := r.column + fields.getD 0 0
  sourceId := r.sourceId + fields.getD 1 0
  sourceLine := r.sourceLine + fields.getD 2 0
  sourceColumn := r.sourceColumn + fields.getD 3 0
  nameId := r.nameId + fields.getD 4 0

/-- The source that a segment refers to by a number. -/
def Sources.at? : Sources → Int → Option Json
  | .items sources, id => item? sources id
  | .keyed _, _ | .uncountable, _ => none

/-- What a segment with some numbers refers to, where `r` is running behind it; nothing if it has
too few numbers or the source or the name is not there. -/
def referenceOf? (sources : Sources) (names : List Text) (r : Running) (fields : List Int) :
    Option Reference :=
  if fields.length = 1 then some {}
  else if fields.length < 4 then none
  else
    (sources.at? r.sourceId).bind fun source =>
      if fields.length = 4 then some { source := some source }
      else (item? names r.nameId).map fun name => { source := some source, name := some name }

lemma Sources.get_eq_ok_iff {segment : Text} {id : Int} {source : Json} :
    sources.get segment id = .ok source ↔ sources.at? id = some source := by
  cases sources with
  | items sources =>
    simp only [Sources.get, Sources.at?]
    cases item? sources id <;> simp
  | keyed count =>
    simp only [Sources.get, Sources.at?]
    split <;> simp
  | uncountable => simp [Sources.get, Sources.at?]

lemma nameOf_eq_ok_iff {segment : Text} {id : Int} {name : Text} :
    nameOf names segment id = .ok name ↔ item? names id = some name := by
  rw [nameOf]
  cases item? names id <;> simp

/-- The numbers of a segment are added to what is running, if the segment refers to something. -/
lemma advance_eq_ok_iff {segment : Text} {r next : Running} {fields : List Int} {ref : Reference}
    (hne : fields ≠ []) :
    advance sources names segment r fields = .ok (next, ref) ↔
      next = r.plus fields ∧ referenceOf? sources names next fields = some ref := by
  match fields with
  | [] => exact absurd rfl hne
  | [c] => simp [advance, referenceOf?, Running.plus, eq_comm]
  | [c, s] => simp [advance, referenceOf?, bind_eq_ok_iff]
  | [c, s, line] => simp [advance, referenceOf?, bind_eq_ok_iff]
  | [c, s, line, column] =>
    have hplus : r.plus [c, s, line, column] =
        ⟨r.column + c, r.sourceId + s, r.sourceLine + line, r.sourceColumn + column, r.nameId⟩ := by
      simp [Running.plus]
    have href : referenceOf? sources names next [c, s, line, column] =
        (sources.at? next.sourceId).bind fun source => some { source := some source } := rfl
    rw [hplus, href, Option.bind_eq_some_iff, advance, bind_eq_ok_iff]
    simp only [Sources.get_eq_ok_iff]
    constructor
    · rintro ⟨source, hsource, hpure⟩
      obtain ⟨rfl, rfl⟩ := Prod.mk.inj (Except.ok.inj hpure)
      exact ⟨rfl, source, hsource, rfl⟩
    · rintro ⟨rfl, source, hsource, hsome⟩
      obtain rfl := Option.some.inj hsome
      exact ⟨source, hsource, rfl⟩
  | c :: s :: line :: column :: n :: more =>
    have href : referenceOf? sources names next (c :: s :: line :: column :: n :: more) =
        (sources.at? next.sourceId).bind fun source =>
          (item? names next.nameId).map fun name =>
            { source := some source, name := some name } := by
      simp [referenceOf?]
    rw [href, Option.bind_eq_some_iff, advance, bind_eq_ok_iff]
    simp only [Sources.get_eq_ok_iff, bind_eq_ok_iff, nameOf_eq_ok_iff, Option.map_eq_some_iff]
    constructor
    · rintro ⟨source, hsource, name, hname, hpure⟩
      obtain ⟨rfl, rfl⟩ := Prod.mk.inj (Except.ok.inj hpure)
      exact ⟨rfl, source, hsource, name, hname, rfl⟩
    · rintro ⟨rfl, source, hsource, name, hname, rfl⟩
      exact ⟨source, hsource, name, hname, rfl⟩

/-- A segment moves the column by its first number. -/
lemma column_of_advance {segment : Text} {r next : Running} {fields : List Int} {ref : Reference}
    (h : advance sources names segment r fields = .ok (next, ref)) :
    next.column = r.column + fields.headD 0 := by
  cases fields with
  | nil =>
    obtain ⟨rfl, -⟩ := Prod.mk.inj (Except.ok.inj h)
    simp
  | cons first rest =>
    obtain ⟨rfl, -⟩ := (advance_eq_ok_iff (List.cons_ne_nil _ _)).1 h
    rfl

/-- A token is made at a position that is not negative. -/
lemma tokenOf_eq_ok_iff {r : Running} {ref : Reference} {token : Token} :
    tokenOf r ref = .ok token ↔ (0 ≤ r.column ∧ 0 ≤ r.sourceLine ∧ 0 ≤ r.sourceColumn) ∧
      token = ⟨r.column.toNat, ref.source.map fun source =>
        ⟨source, r.sourceLine.toNat, r.sourceColumn.toNat, ref.name⟩⟩ := by
  rw [tokenOf]
  split
  · next hnegative =>
    refine iff_of_false (by simp) ?_
    rintro ⟨hnonneg, -⟩
    omega
  · next hnonneg =>
    rw [and_iff_right (by omega), Except.ok.injEq, eq_comm]

lemma column_of_tokenOf {r : Running} {ref : Reference} {token : Token}
    (h : tokenOf r ref = .ok token) : (token.column : Int) = r.column := by
  obtain ⟨⟨hcolumn, -, -⟩, rfl⟩ := tokenOf_eq_ok_iff.1 h
  exact Int.toNat_of_nonneg hcolumn

lemma exists_of_decodeSegment {r next : Running} {segment : Text} {token : Token}
    (h : decodeSegment sources names r segment = .ok (next, token)) :
    ∃ fields ref, Vlq.read segment = .ok fields ∧
      advance sources names segment r fields = .ok (next, ref) ∧ tokenOf next ref = .ok token := by
  obtain ⟨fields, hfields, hrest⟩ := bind_eq_ok_iff.1 h
  obtain ⟨⟨next', ref⟩, hadvance, hrest⟩ := bind_eq_ok_iff.1 hrest
  obtain ⟨token', htoken, hpure⟩ := bind_eq_ok_iff.1 hrest
  obtain ⟨rfl, rfl⟩ := Prod.mk.inj (Except.ok.inj hpure)
  exact ⟨fields, ref, segmentFields_eq_ok_iff.1 hfields, hadvance, htoken⟩

/-- A line that is decoded starts with an empty segment or with one that is decoded. -/
lemma exists_of_decodeSegments_cons {r last : Running} {segment : Text} {segments : List Text}
    {tokens : List Token}
    (h : decodeSegments sources names r (segment :: segments) = .ok (last, tokens)) :
    segment = [] ∧ decodeSegments sources names r segments = .ok (last, tokens) ∨
      ∃ next token rest, decodeSegment sources names r segment = .ok (next, token) ∧
        decodeSegments sources names next segments = .ok (last, rest) ∧ tokens = token :: rest := by
  rw [decodeSegments] at h
  split at h
  · next hempty => exact Or.inl ⟨by simpa using hempty, h⟩
  · obtain ⟨⟨next, token⟩, hsegment, hrest⟩ := bind_eq_ok_iff.1 h
    obtain ⟨⟨last', rest⟩, hsegments, hpure⟩ := bind_eq_ok_iff.1 hrest
    obtain ⟨rfl, rfl⟩ := Prod.mk.inj (Except.ok.inj hpure)
    exact Or.inr ⟨next, token, rest, hsegment, hsegments, rfl⟩

/-! ## Lines -/

/-- The tokens of a line are decoded from its segments, with the column starting anew. -/
def DecodedFrom (sources : Sources) (names : List Text) (line : Text) (tokens : List Token) : Prop :=
  ∃ r last : Running, r.column = 0 ∧
    decodeSegments sources names r (Text.splitOn [','] line) = .ok (last, tokens)

lemma forall₂_of_decodeLines {r : Running} {lines : List Text} {table : Table}
    (h : decodeLines sources names r lines = .ok table) :
    List.Forall₂ (DecodedFrom sources names) lines table := by
  induction lines generalizing r table with
  | nil =>
    obtain rfl := Except.ok.inj h
    exact List.Forall₂.nil
  | cons line lines ih =>
    obtain ⟨⟨last, tokens⟩, hline, hrest⟩ := bind_eq_ok_iff.1 h
    obtain ⟨rest, hlines, hpure⟩ := bind_eq_ok_iff.1 hrest
    obtain rfl := Except.ok.inj hpure
    exact List.Forall₂.cons ⟨_, last, rfl, hline⟩ (ih hlines)

/-! ## Texts -/

/-- The parts of a document from which a regular map is decoded: its sources, under its root if it
has one, its names and its mappings. -/
structure HasParts (document : Json) (sources : Sources) (names : List Text) (mappings : Text) :
    Prop where
  sources : ∃ v, field "sources".toList document = .ok v ∧
    readSources (rootOf document) v = .ok sources
  names : ∃ v, field "names".toList document = .ok v ∧ readNames v = .ok names
  mappings : field "mappings".toList document = .ok (.text mappings)

lemma decodeRegular_eq_ok_iff {document : Json} {table : Table} :
    decodeRegular document = .ok table ↔ ∃ sources names mappings,
      HasParts document sources names mappings ∧
        decodeMappings sources names mappings = .ok table := by
  constructor
  · intro h
    obtain ⟨listed, hlisted, h⟩ := bind_eq_ok_iff.1 h
    obtain ⟨nameField, hnameField, h⟩ := bind_eq_ok_iff.1 h
    obtain ⟨names, hnames, h⟩ := bind_eq_ok_iff.1 h
    obtain ⟨value, hvalue, h⟩ := bind_eq_ok_iff.1 h
    cases value with
    | text mappings =>
      obtain ⟨sources, hsources, hdecode⟩ := bind_eq_ok_iff.1 h
      exact ⟨sources, names, mappings,
        ⟨⟨listed, hlisted, hsources⟩, ⟨nameField, hnameField, hnames⟩, hvalue⟩, hdecode⟩
    | _ => cases h
  · rintro ⟨sources, names, mappings, ⟨⟨listed, hlisted, hsources⟩, ⟨nameField, hnameField, hnames⟩,
      hmappings⟩, hdecode⟩
    refine bind_eq_ok_iff.2 ⟨listed, hlisted, bind_eq_ok_iff.2 ⟨nameField, hnameField,
      bind_eq_ok_iff.2 ⟨names, hnames, bind_eq_ok_iff.2 ⟨_, hmappings, ?_⟩⟩⟩⟩
    exact bind_eq_ok_iff.2 ⟨sources, hsources, hdecode⟩

/-- The document of a text, which stands behind the guard line if there is one. -/
def HasDocument (t : Text) (document : Json) : Prop :=
  ∃ body, afterGuard t = .ok body ∧ Json.parse body = .ok document

lemma readRegular_eq_ok_iff {t : Text} {table : Table} :
    readRegular t = .ok table ↔ ∃ document, HasDocument t document ∧
      decodeRegular document = .ok table := by
  constructor
  · intro h
    obtain ⟨body, hbody, hrest⟩ := bind_eq_ok_iff.1 h
    cases hparse : Json.parse body with
    | error f => rw [hparse] at hrest; cases hrest
    | ok document =>
      rw [hparse] at hrest
      exact ⟨document, ⟨body, hbody, hparse⟩, hrest⟩
  · rintro ⟨document, ⟨body, hbody, hparse⟩, hdecode⟩
    refine bind_eq_ok_iff.2 ⟨body, hbody, ?_⟩
    rw [hparse]
    exact hdecode

/-- A text is loaded as a regular map if it is not that of an index map and can be read. -/
lemma load_regular_iff_readRegular {path : Option Text} {t : Text} {table : Table} :
    load path t = .ok (.regular table) ↔ sectionsOf? t = none ∧ readRegular t = .ok table := by
  rw [load, mapError_eq_ok_iff, read]
  cases sectionsOf? t with
  | none => simp [map_eq_ok_iff, mapError_eq_ok_iff]
  | some sections => simp [map_eq_ok_iff]

/-- The mappings of a text: those of its document, which stands behind the guard line if there is
one. -/
def HasMappings (t mappings : Text) : Prop :=
  ∃ body document, afterGuard t = .ok body ∧ Json.parse body = .ok document ∧
    field "mappings".toList document = .ok (.text mappings)

/-- A text that is loaded as a regular map has mappings, from which the lines of the map are
decoded. -/
theorem exists_mappings_of_load {path : Option Text} {t : Text} {table : Table}
    (h : load path t = .ok (.regular table)) :
    ∃ mappings sources names, HasMappings t mappings ∧
      List.Forall₂ (DecodedFrom sources names) (Text.splitOn [';'] mappings) table := by
  obtain ⟨-, hread⟩ := load_regular_iff_readRegular.1 h
  obtain ⟨document, ⟨body, hbody, hparse⟩, hregular⟩ := readRegular_eq_ok_iff.1 hread
  obtain ⟨sources, names, mappings, hparts, hdecode⟩ := decodeRegular_eq_ok_iff.1 hregular
  exact ⟨mappings, sources, names, ⟨body, document, hbody, hparse, hparts.mappings⟩,
    forall₂_of_decodeLines hdecode⟩

/-! ## Index maps -/

/-- The table of a section is decoded from the map in it. -/
lemma exists_map_of_readSection {v : Json} {s : Section} (h : readSection v = .ok s) :
    ∃ document, field "map".toList v = .ok document ∧ decodeRegular document = .ok s.table := by
  obtain ⟨offset, -, h⟩ := bind_eq_ok_iff.1 h
  obtain ⟨lineField, -, h⟩ := bind_eq_ok_iff.1 h
  obtain ⟨line, -, h⟩ := bind_eq_ok_iff.1 h
  obtain ⟨columnField, -, h⟩ := bind_eq_ok_iff.1 h
  obtain ⟨column, -, h⟩ := bind_eq_ok_iff.1 h
  obtain ⟨document, hdocument, h⟩ := bind_eq_ok_iff.1 h
  obtain ⟨table, htable, hpure⟩ := bind_eq_ok_iff.1 h
  obtain rfl := Except.ok.inj hpure
  exact ⟨document, mapError_eq_ok_iff.1 hdocument, mapError_eq_ok_iff.1 htable⟩

/-- A text that is loaded as an index map lists its sections, which are put in order. -/
lemma exists_listed_of_load {path : Option Text} {t : Text} {sections : List Section}
    (h : load path t = .ok (.indexed sections)) :
    ∃ value items listed, sectionsOf? t = some value ∧ members? value = some items ∧
      List.Forall₂ (fun v s => readSection v = .ok s) items listed ∧
      sections = Section.sort listed := by
  rw [load, mapError_eq_ok_iff, read] at h
  split at h
  · next value hvalue =>
    obtain ⟨sorted, hsorted, hindexed⟩ := map_eq_ok_iff.1 h
    obtain rfl := SourceMap.indexed.inj hindexed
    rw [readSections] at hsorted
    split at hsorted
    · next items hitems =>
      obtain ⟨listed, hlisted, rfl⟩ := map_eq_ok_iff.1 hsorted
      exact ⟨value, items, listed, hvalue, hitems, mapM_eq_ok_iff.1 hlisted, rfl⟩
    · cases hsorted
  · obtain ⟨table, -, hregular⟩ := map_eq_ok_iff.1 h
    cases hregular

end Retrace.SourceMap
