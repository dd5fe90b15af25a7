import Retrace.Proofs.SourceMap.Answers
import Retrace.Proofs.SourceMap.Sections
import Retrace.Proofs.SourceMap.Totals

/-!
# Where the answers of a loaded map are written

A text contains regular maps: itself, or those in its sections (`Contains`).  Whatever a map that is
loaded from the text answers is written in one of them: it is what a segment of the mappings refers
to by its totals (`WrittenIn`).  `whole_of_resolve` derives from this that answers are whole: their
lines and columns are totals of segments that fit, so no position in the sources is negative.
-/

namespace Retrace.SourceMap

variable {sources : Sources} {names : List Text}

/-- A document is that of a regular map which a text contains: its own, or that of a section. -/
def Contains (t : Text) (document : Json) : Prop :=
  (sectionsOf? t = none ∧ HasDocument t document) ∨
    ∃ value items item, sectionsOf? t = some value ∧ members? value = some items ∧ item ∈ items ∧
      field "map".toList item = .ok document

/-- The tables of a loaded map are decoded from the regular maps that the text contains. -/
lemma exists_contains_of_mem_tables {path : Option Text} {t : Text} {m : SourceMap} {table : Table}
    (h : load path t = .ok m) (htable : table ∈ m.tables) :
    ∃ document, Contains t document ∧ decodeRegular document = .ok table := by
  cases m with
  | regular own =>
    obtain rfl := List.mem_singleton.1 htable
    obtain ⟨hsections, hread⟩ := load_regular_iff_readRegular.1 h
    obtain ⟨document, hdocument, hregular⟩ := readRegular_eq_ok_iff.1 hread
    exact ⟨document, Or.inl ⟨hsections, hdocument⟩, hregular⟩
  | indexed sections =>
    obtain ⟨s, hs, rfl⟩ := List.mem_map.1 htable
    obtain ⟨value, items, listed, hvalue, hitems, hlisted, rfl⟩ := exists_listed_of_load h
    have hmem : s ∈ listed := (Section.sort_perm listed).mem_iff.1 hs
    obtain ⟨item, hitem, hread⟩ := exists_mem_of_forall₂ hlisted hmem
    obtain ⟨document, hdocument, htable⟩ := exists_map_of_readSection hread
    exact ⟨document, Or.inr ⟨value, items, item, hvalue, hitems, hitem, hdocument⟩, htable⟩

/-! ## What a segment refers to -/

/-- A segment with some numbers refers to a position, where `r` is running behind it.  An empty name
is none. -/
structure RefersTo (sources : Sources) (names : List Text) (r : Running) (fields : List Int)
    (p : Position) : Prop where
  length : 4 ≤ fields.length
  source : sources.at? r.sourceId = some p.source
  line : p.line = r.sourceLine + 1
  column : p.column = r.sourceColumn
  name : p.name = (if fields.length = 4 then none else item? names r.nameId).filter (!·.isEmpty)

/-- The token of a segment that fits stands for the position that the segment refers to. -/
lemma refersTo_of_tokenFor {earlier here : List (List Int)} {fields : List Int} {r : Running}
    {o : Origin} {p : Position} (hr : r = runningAfter earlier (here ++ [fields]))
    (hfits : Fits sources.count names.length earlier here fields)
    (ho : (tokenFor sources names r fields).origin = some o) (hp : o.position? = some p) :
    RefersTo sources names r fields p := by
  obtain ⟨⟨ref, href⟩, -, hline, hcolumn⟩ := (fits_iff hr).1 hfits
  obtain ⟨-, rfl⟩ := Origin.position?_eq_some hp
  rw [tokenFor_of_referenceOf? href, Option.map_eq_some_iff] at ho
  obtain ⟨source, hsource, rfl⟩ := ho
  have hpositive : (r.sourceLine.toNat : Int) + 1 = r.sourceLine + 1 := by
    rw [Int.toNat_of_nonneg hline]
  rw [referenceOf?] at href
  split_ifs at href with hone hshort hfour
  · obtain rfl := Option.some.inj href
    cases hsource
  · obtain ⟨found, hfound, hsome⟩ := Option.bind_eq_some_iff.1 href
    obtain rfl := Option.some.inj hsome
    obtain rfl := Option.some.inj hsource
    exact ⟨hfour.ge, hfound, hpositive, Int.toNat_of_nonneg hcolumn, by rw [if_pos hfour]⟩
  · obtain ⟨found, hfound, hmap⟩ := Option.bind_eq_some_iff.1 href
    obtain ⟨name, hname, rfl⟩ := Option.map_eq_some_iff.1 hmap
    obtain rfl := Option.some.inj hsource
    exact ⟨by omega, hfound, hpositive, Int.toNat_of_nonneg hcolumn, by rw [if_neg hfour, hname]⟩

/-! ## Answers -/

/-- A position is written in a text: a segment of a map that the text contains fits and refers to
it. -/
def WrittenIn (t : Text) (p : Position) : Prop :=
  ∃ document sources names mappings earlier here fields,
    Contains t document ∧ HasParts document sources names mappings ∧
    SegmentIn mappings earlier here fields ∧
    Fits sources.count names.length earlier here fields ∧
    RefersTo sources names (runningAfter earlier (here ++ [fields])) fields p

/-- A position with a source, a line counted from one, a column counted from zero, and no empty
name. -/
structure Position.Whole (p : Position) : Prop where
  source_ne_null : p.source ≠ .null
  one_le_line : 1 ≤ p.line
  column_nonneg : 0 ≤ p.column
  name_ne_nil : p.name ≠ some []

/-- **Answers are written.** What a loaded map answers is written in its text. -/
theorem writtenIn_of_resolve {path : Option Text} {t : Text} {m : SourceMap} {line column : Int}
    {p : Position} (h : load path t = .ok m) (hp : m.resolve line column = some p) :
    WrittenIn t p := by
  obtain ⟨o, ho, hposition⟩ := exists_origin_of_resolve hp
  obtain ⟨token, htoken, horigin⟩ := List.mem_filterMap.1 ho
  obtain ⟨tokens, htokens, hmem⟩ := List.mem_flatten.1 htoken
  obtain ⟨table, htable, hline⟩ := List.mem_flatten.1 htokens
  obtain ⟨document, hcontains, hregular⟩ := exists_contains_of_mem_tables h htable
  obtain ⟨sources, names, mappings, hparts, hdecode⟩ := decodeRegular_eq_ok_iff.1 hregular
  obtain ⟨earlier, here, fields, hsegment, hfits, rfl⟩ :=
    exists_segment_of_decodeMappings hdecode (List.mem_flatten.2 ⟨tokens, hline, hmem⟩)
  exact ⟨document, sources, names, mappings, earlier, here, fields, hcontains, hparts, hsegment,
    hfits, refersTo_of_tokenFor rfl hfits horigin hposition⟩

/-- What a map answers has a source. -/
lemma source_ne_null_of_resolve {m : SourceMap} {line column : Int} {p : Position}
    (hp : m.resolve line column = some p) : p.source ≠ .null := by
  obtain ⟨o, -, hposition⟩ := exists_origin_of_resolve hp
  obtain ⟨hnull, rfl⟩ := Origin.position?_eq_some hposition
  exact hnull

/-- **Answers are whole.** A position that a segment which fits refers to has a line and a column
that are not negative. -/
theorem whole_of_resolve {path : Option Text} {t : Text} {m : SourceMap} {line column : Int}
    {p : Position} (h : load path t = .ok m) (hp : m.resolve line column = some p) : p.Whole := by
  obtain ⟨_, _, _, _, earlier, here, fields, -, -, -, hfits, hrefers⟩ := writtenIn_of_resolve h hp
  refine ⟨source_ne_null_of_resolve hp, ?_, ?_, ?_⟩
  · have hline : 0 ≤ (runningAfter earlier (here ++ [fields])).sourceLine := hfits.sourceLine
    rw [hrefers.line]
    omega
  · rw [hrefers.column]
    exact hfits.sourceColumn
  · rw [hrefers.name]
    simp [Option.filter_eq_some_iff]

end Retrace.SourceMap
