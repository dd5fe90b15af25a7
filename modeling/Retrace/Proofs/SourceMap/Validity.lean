import Retrace.Proofs.SourceMap.Document
import Retrace.Proofs.SourceMap.Totals

/-!
# Which mappings are accepted

Mappings are proper if their segments are complete numbers of the alphabet which all fit (`Proper`).
All proper mappings are accepted.  So are some that are not: the reader takes a stray character that
is not above `z` for the last one of the alphabet (`reads_iff`), and nothing checks for it
afterwards.

`load_iff_passes` says exactly which maps are loaded: those whose mappings are proper once the stray
characters are replaced, and contain none above `z`.  Any other map is rejected.  Among the mappings
that pass, the proper ones are those without stray characters, so stray characters are all that is
missed (`not_proper_stray`).
-/

namespace Retrace.SourceMap

variable {sources : Sources} {names : List Text}

/-! ## Proper mappings -/

/-- Mappings are proper in a map with so many sources and names: every segment is made of complete
numbers, and all segments fit. -/
def Proper (sourceCount nameCount : Nat) (mappings : Text) : Prop :=
  ∃ lines, Spells mappings lines ∧ AllFit sourceCount nameCount lines

/-- Mappings pass for proper: they are when the stray characters are replaced, and none of these is
above `z`. -/
def Passes (sourceCount nameCount : Nat) (mappings : Text) : Prop :=
  (∀ c ∈ mappings, c ≤ 'z') ∧ Proper sourceCount nameCount (mappings.map standIn)

lemma HasPart.le {c : Char} (h : HasPart c) : c ≤ 'z' := by
  rcases h with rfl | rfl | h
  · decide
  · decide
  · exact h.le

lemma map_standIn_of_hasPart {mappings : Text} (h : ∀ c ∈ mappings, HasPart c) :
    mappings.map standIn = mappings := by
  conv_rhs => rw [← List.map_id mappings]
  exact List.map_congr_left fun c hc => if_pos (h c hc)

/-- Proper mappings pass, and those that pass are proper if no character of them is stray. -/
theorem proper_iff_passes {sourceCount nameCount : Nat} {mappings : Text} :
    Proper sourceCount nameCount mappings ↔
      Passes sourceCount nameCount mappings ∧ ∀ c ∈ mappings, HasPart c := by
  constructor
  · rintro ⟨lines, hspells, hfit⟩
    have hparts := (spells_iff.1 hspells).1
    refine ⟨⟨fun c hc => (hparts c hc).le, lines, ?_, hfit⟩, hparts⟩
    rwa [map_standIn_of_hasPart hparts]
  · rintro ⟨⟨-, lines, hspells, hfit⟩, hparts⟩
    rw [map_standIn_of_hasPart hparts] at hspells
    exact ⟨lines, hspells, hfit⟩

lemma exists_decodeMappings_iff {mappings : Text} :
    (∃ table, decodeMappings sources names mappings = .ok table) ↔
      Passes sources.count names.length mappings := by
  simp only [decodeMappings_eq_ok_iff, reads_iff]
  constructor
  · rintro ⟨_, lines, ⟨hle, hspells⟩, hfit, -⟩
    exact ⟨hle, lines, hspells, hfit⟩
  · rintro ⟨hle, lines, hspells, hfit⟩
    exact ⟨_, lines, ⟨hle, hspells⟩, hfit, rfl⟩

/-! ## Texts -/

/-- A text is one of a regular map with these parts. -/
def IsRegular (t : Text) (sources : Sources) (names : List Text) (mappings : Text) : Prop :=
  sectionsOf? t = none ∧ ∃ document, HasDocument t document ∧
    HasParts document sources names mappings

lemma HasDocument.unique {t : Text} {document other : Json} (h : HasDocument t document)
    (hother : HasDocument t other) : document = other := by
  obtain ⟨body, hbody, hparse⟩ := h
  obtain ⟨body', hbody', hparse'⟩ := hother
  obtain rfl := Except.ok.inj (hbody.symm.trans hbody')
  exact Except.ok.inj (hparse.symm.trans hparse')

lemma HasParts.unique {document : Json} {sources' : Sources} {names' : List Text}
    {mappings mappings' : Text} (h : HasParts document sources names mappings)
    (h' : HasParts document sources' names' mappings') :
    sources = sources' ∧ names = names' ∧ mappings = mappings' := by
  obtain ⟨v, hv, hsources⟩ := h.sources
  obtain ⟨v', hv', hsources'⟩ := h'.sources
  obtain rfl := Except.ok.inj (hv.symm.trans hv')
  obtain ⟨w, hw, hnames⟩ := h.names
  obtain ⟨w', hw', hnames'⟩ := h'.names
  obtain rfl := Except.ok.inj (hw.symm.trans hw')
  exact ⟨Except.ok.inj (hsources.symm.trans hsources'), Except.ok.inj (hnames.symm.trans hnames'),
    Json.text.inj (Except.ok.inj (h.mappings.symm.trans h'.mappings))⟩

/-- A text is loaded as a regular map if it is one of such a map and its mappings can be decoded. -/
lemma load_regular_iff {path : Option Text} {t : Text} {table : Table} :
    load path t = .ok (.regular table) ↔ ∃ sources names mappings,
      IsRegular t sources names mappings ∧ decodeMappings sources names mappings = .ok table := by
  rw [load_regular_iff_readRegular, readRegular_eq_ok_iff]
  simp only [decodeRegular_eq_ok_iff]
  constructor
  · rintro ⟨hsections, document, hdocument, sources, names, mappings, hparts, hdecode⟩
    exact ⟨sources, names, mappings, ⟨hsections, document, hdocument, hparts⟩, hdecode⟩
  · rintro ⟨sources, names, mappings, ⟨hsections, document, hdocument, hparts⟩, hdecode⟩
    exact ⟨hsections, document, hdocument, sources, names, mappings, hparts, hdecode⟩

lemma exists_load_regular_iff {path : Option Text} {t mappings : Text}
    (h : IsRegular t sources names mappings) :
    (∃ table, load path t = .ok (.regular table)) ↔
      Passes sources.count names.length mappings := by
  rw [← exists_decodeMappings_iff]
  simp only [load_regular_iff]
  constructor
  · rintro ⟨table, sources', names', mappings', ⟨-, document', hdocument', hparts'⟩, hdecode⟩
    obtain ⟨-, document, hdocument, hparts⟩ := h
    obtain rfl := hdocument.unique hdocument'
    obtain ⟨rfl, rfl, rfl⟩ := hparts.unique hparts'
    exact ⟨table, hdecode⟩
  · rintro ⟨table, hdecode⟩
    exact ⟨table, sources, names, mappings, h, hdecode⟩

/-- A text that is not of an index map is loaded as a regular map, or rejected with its path. -/
lemma exists_rejected_iff {path : Option Text} {t : Text} (hsections : sectionsOf? t = none) :
    (∃ f, load path t = .error (.rejected f path)) ↔
      ¬ ∃ table, load path t = .ok (.regular table) := by
  have hread : read t = ((readRegular t).mapError .fault).map .regular := by
    rw [read, hsections]
  rw [load, hread]
  cases readRegular t with
  | error f => simp [Except.mapError, Except.map]
  | ok table => simp [Except.mapError, Except.map]

/-- **Accepted mappings.** A text that is loaded as a regular map is one with parts.  Such a text is
loaded exactly if its mappings pass for proper in a map with its sources and names, and is rejected
with its path if they do not.  The mappings are proper exactly if they pass and no character of them
is stray. -/
theorem load_iff_passes (path : Option Text) (t : Text) :
    ((∃ table, load path t = .ok (.regular table)) →
      ∃ sources names mappings, IsRegular t sources names mappings) ∧
    ∀ sources names mappings, IsRegular t sources names mappings →
      ((∃ table, load path t = .ok (.regular table)) ↔
        Passes sources.count names.length mappings) ∧
      ((∃ f, load path t = .error (.rejected f path)) ↔
        ¬ Passes sources.count names.length mappings) ∧
      (Proper sources.count names.length mappings ↔
        Passes sources.count names.length mappings ∧ ∀ c ∈ mappings, HasPart c) := by
  constructor
  · rintro ⟨table, htable⟩
    obtain ⟨sources, names, mappings, hregular, -⟩ := load_regular_iff.1 htable
    exact ⟨sources, names, mappings, hregular⟩
  · intro sources names mappings hregular
    have haccepted : (∃ table, load path t = .ok (.regular table)) ↔
        Passes sources.count names.length mappings := exists_load_regular_iff hregular
    exact ⟨haccepted, (exists_rejected_iff hregular.1).trans (not_congr haccepted),
      proper_iff_passes⟩

/-! ### Mappings of a map with one source and one name -/

lemma HasMap.hasParts {fields : List (Text × Json)} {sources names : List Text} {mappings : Text}
    (h : HasMap fields sources names mappings) :
    HasParts (.object fields) (.items (sources.map .text)) names mappings where
  sources := ⟨.list (sources.map .text), by simp only [field, h.sources],
    by simp only [rootOf_eq_none h.root, readSources]⟩
  names := ⟨.list (names.map .text), by simp only [field, h.names], readNames_list names⟩
  mappings := by simp only [field, h.mappings]

lemma IsMapText.isRegular {t : Text} {sources names : List Text} {mappings : Text}
    (h : IsMapText t sources names mappings) :
    IsRegular t (.items (sources.map .text)) names mappings := by
  obtain ⟨fields, hparse, hmap, hsections⟩ := h
  exact ⟨sectionsOf?_eq_none hparse hsections, .object fields,
    ⟨t, afterGuard_of_parse hparse, hparse⟩, hmap.hasParts⟩

/-- One source. -/
def oneSource : Sources := .items [.text "a.js".toList]

/-- One name. -/
def oneName : List Text := ["f".toList]

/-- A regular map with one source and one name, and some mappings. -/
def mappingsText (mappings : Text) : Text :=
  Json.print (mapDocument ["a.js".toList] oneName mappings)

lemma isRegular_mappingsText (mappings : Text) :
    IsRegular (mappingsText mappings) oneSource oneName mappings :=
  (isMapText_print ["a.js".toList] oneName mappings).isRegular

/-- A named segment, one that moves the column only, and one that moves all but the name. -/
def namedMappings : Text := "UAAAA,gB;CACE".toList

/-- The second segment moves the column below zero. -/
def fallingMappings : Text := "UAAAA,X".toList

/-- The table of these mappings. -/
def namedTable : Table :=
  [[⟨10, some ⟨.text "a.js".toList, 0, 0, some "f".toList⟩⟩, ⟨26, none⟩],
    [⟨1, some ⟨.text "a.js".toList, 1, 2, none⟩⟩]]

lemma decodeMappings_namedMappings :
    decodeMappings oneSource oneName namedMappings = .ok namedTable := by cbv

lemma decodeMappings_fallingMappings :
    decodeMappings oneSource oneName fallingMappings = .error .negative := by cbv

lemma hasPart_of_mem_namedMappings : ∀ c ∈ namedMappings, HasPart c := by
  have hall : namedMappings.all (fun c => decide (HasPart c)) = true := by cbv
  intro c hc
  exact of_decide_eq_true (List.all_eq_true.1 hall c hc)

theorem load_iff_passes_named :
    (∃ table, load none (mappingsText namedMappings) = .ok (.regular table)) ∧
      Proper 1 1 namedMappings ∧
      ∃ f, load none (mappingsText fallingMappings) = .error (.rejected f none) := by
  obtain ⟨-, hnamed⟩ := load_iff_passes none (mappingsText namedMappings)
  obtain ⟨haccepted, -, hproper⟩ := hnamed _ _ _ (isRegular_mappingsText namedMappings)
  obtain ⟨-, hfalling⟩ := load_iff_passes none (mappingsText fallingMappings)
  obtain ⟨-, hrejected, -⟩ := hfalling _ _ _ (isRegular_mappingsText fallingMappings)
  have hpasses : Passes 1 1 namedMappings :=
    exists_decodeMappings_iff.1 ⟨namedTable, decodeMappings_namedMappings⟩
  have hfails : ¬ Passes oneSource.count oneName.length fallingMappings := by
    rw [← exists_decodeMappings_iff, decodeMappings_fallingMappings]
    rintro ⟨table, htable⟩
    cases htable
  exact ⟨haccepted.2 hpasses, hproper.2 ⟨hpasses, hasPart_of_mem_namedMappings⟩,
    hrejected.2 hfails⟩

/-- The second segment has a stray character and reads as minus fifteen. -/
def strayMappings : Text := "e,!A".toList

lemma decodeMappings_strayMappings :
    decodeMappings oneSource oneName strayMappings = .ok [[⟨15, none⟩, ⟨0, none⟩]] := by cbv

/-- Mappings with a stray character are accepted, though they are not proper. -/
theorem not_proper_stray :
    load none (mappingsText strayMappings) = .ok (.regular [[⟨15, none⟩, ⟨0, none⟩]]) ∧
      ¬ Proper 1 1 strayMappings := by
  refine ⟨load_regular_iff.2 ⟨_, _, _, isRegular_mappingsText strayMappings,
    decodeMappings_strayMappings⟩, ?_⟩
  intro h
  obtain ⟨-, hparts⟩ := proper_iff_passes.1 h
  have hstray : ¬ HasPart '!' := by decide
  exact hstray (hparts '!' (by decide))

end Retrace.SourceMap
