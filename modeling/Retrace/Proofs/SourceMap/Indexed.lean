import Retrace.Proofs.Numeral
import Retrace.Proofs.SourceMap.Partition
import Retrace.Proofs.Traversal

/-!
# An index map answers as the map it was cut from

`IsIndexText` says what of a text makes it that of an index map with given parts as its sections,
in the order in which they are listed.  `resolve_indexed_eq` says that such a text is loaded, and
that the map answers every position as the map that the parts were cut from does, whatever the
order of the sections.

An index map is printed as such a text as long as the numbers of its cuts have no more digits than
are read (`isIndexText_print`).  A regular map has no such limit, since its numbers are in base 64.
-/

namespace Retrace.SourceMap

variable {sources names : List Text}

/-! ## Documents -/

/-- A document of a section: where a part starts, and the map of its lines. -/
def IsSectionDocument (document : Json) (p : Part sources names) : Prop :=
  ∃ fields offset map, document = .object fields ∧
    Json.field? "offset".toList fields = some (.object offset) ∧
    Json.field? "line".toList offset = some (.int p.start.line) ∧
    Json.field? "column".toList offset = some (.int p.start.column) ∧
    Json.field? "map".toList fields = some (.object map) ∧
    HasMap map sources names (encode p.lines)

/-- A text whose document lists parts as its sections. -/
def IsIndexText (t : Text) (listed : List (Part sources names)) : Prop :=
  ∃ fields items, Json.parse t = .ok (.object fields) ∧
    Json.field? "sections".toList fields = some (.list items) ∧
    List.Forall₂ IsSectionDocument items listed

/-- The document of a section. -/
def sectionDocument (p : Part sources names) : Json :=
  .object [
    ("offset".toList,
      .object [("line".toList, .int p.start.line), ("column".toList, .int p.start.column)]),
    ("map".toList, mapDocument sources names (encode p.lines))]

/-- The document of an index map. -/
def indexDocument (listed : List (Part sources names)) : Json :=
  .object [("version".toList, .int 3), ("sections".toList, .list (listed.map sectionDocument))]

lemma isSectionDocument_sectionDocument (p : Part sources names) :
    IsSectionDocument (sectionDocument p) p :=
  ⟨_, _, _, rfl, rfl, rfl, rfl, rfl, hasMap_mapFields sources names (encode p.lines)⟩

/-! ## Printing -/

lemma plain_sectionDocument (p : Part sources names) : Json.Plain (sectionDocument p) := by
  have hmap := plain_mapDocument sources names (encode p.lines)
  have hkeys : ["offset".toList, "map".toList].Nodup := by decide
  have hoffsetKeys : ["line".toList, "column".toList].Nodup := by decide
  exact ⟨hkeys, ⟨hoffsetKeys, trivial, trivial, trivial⟩, hmap, trivial⟩

lemma plainItems_sectionDocument (listed : List (Part sources names)) :
    Json.PlainItems (listed.map sectionDocument) := by
  induction listed with
  | nil => trivial
  | cons p listed ih => exact ⟨plain_sectionDocument p, ih⟩

lemma plain_indexDocument (listed : List (Part sources names)) :
    Json.Plain (indexDocument listed) := by
  have hkeys : ["version".toList, "sections".toList].Nodup := by decide
  exact ⟨hkeys, trivial, plainItems_sectionDocument listed, trivial⟩

/-- The first number of a section that is too long to be read: its map has none. -/
lemma longNumber?_sectionDocument (p : Part sources names) :
    Json.longNumber? (sectionDocument p) =
      (Json.longNumber? (.int p.start.line)).or (Json.longNumber? (.int p.start.column)) := by
  simp only [sectionDocument, Json.longNumber?_object, Json.longField?_cons, Json.longField?_nil,
    longNumber?_mapDocument, Option.or_none]

lemma longNumber?_indexDocument (listed : List (Part sources names)) :
    Json.longNumber? (indexDocument listed) = Json.longItem? (listed.map sectionDocument) := by
  have hversion : Json.longNumber? (.int 3) = none := rfl
  simp only [indexDocument, Json.longNumber?_object, Json.longField?_cons, Json.longField?_nil,
    Json.longNumber?_list, hversion, Option.none_or, Option.or_none]

/-- A cut whose numbers have no more digits than are read. -/
def Cut.Readable (cut : Cut) : Prop :=
  (Numeral.digits cut.line).length ≤ Numeral.digitLimit ∧
    (Numeral.digits cut.column).length ≤ Numeral.digitLimit

lemma longNumber?_natCast {n : Nat} (h : (Numeral.digits n).length ≤ Numeral.digitLimit) :
    Json.longNumber? (.int n) = none := by
  rw [Json.longNumber?]
  exact if_neg (Nat.not_lt.2 h)

lemma longItem?_sectionDocument {listed : List (Part sources names)}
    (h : ∀ p ∈ listed, p.start.Readable) :
    Json.longItem? (listed.map sectionDocument) = none := by
  induction listed with
  | nil => rfl
  | cons p listed ih =>
    have hp := h p List.mem_cons_self
    rw [List.map_cons, Json.longItem?_cons, longNumber?_sectionDocument, longNumber?_natCast hp.1,
      longNumber?_natCast hp.2, ih fun q hq => h q (List.mem_cons_of_mem p hq)]
    rfl

/-- An index map is read from the text it is printed as, if its cuts can be read. -/
theorem isIndexText_print {listed : List (Part sources names)}
    (h : ∀ p ∈ listed, p.start.Readable) :
    IsIndexText (Json.print (indexDocument listed)) listed := by
  refine ⟨[("version".toList, .int 3), ("sections".toList, .list (listed.map sectionDocument))],
    listed.map sectionDocument, ?_, rfl, ?_⟩
  · rw [Json.parse_print (plain_indexDocument listed), longNumber?_indexDocument,
      longItem?_sectionDocument h]
    rfl
  · rw [List.forall₂_map_left_iff, List.forall₂_same]
    exact fun p _ => isSectionDocument_sectionDocument p

/-- A cut that cannot be read leaves a number of its section too long. -/
lemma exists_longItem?_sectionDocument {listed : List (Part sources names)}
    (h : ∃ p ∈ listed, ¬ p.start.Readable) :
    ∃ n, Json.longItem? (listed.map sectionDocument) = some n := by
  have hlong {n : Nat} (hn : ¬ (Numeral.digits n).length ≤ Numeral.digitLimit) :
      (Json.longNumber? (.int n)).isSome = true := by
    rw [Json.longNumber?]
    simp only [Int.natAbs_natCast, if_pos (Nat.not_le.1 hn), Option.isSome_some]
  rw [← Option.isSome_iff_exists]
  induction listed with
  | nil => simp at h
  | cons p listed ih =>
    rw [List.map_cons, Json.longItem?_cons, longNumber?_sectionDocument]
    obtain ⟨q, hq, hnot⟩ := h
    rcases List.mem_cons.1 hq with rfl | hq
    · rw [Cut.Readable, not_and_or] at hnot
      rcases hnot with hline | hcolumn
      · simp [Option.isSome_or, hlong hline]
      · simp [Option.isSome_or, hlong hcolumn]
    · simp [Option.isSome_or, ih ⟨q, hq, hnot⟩]

/-! ## Loading -/

/-- An index map with a cut that cannot be read is refused. -/
lemma load_indexDocument_of_not_readable {listed : List (Part sources names)}
    (h : ∃ p ∈ listed, ¬ p.start.Readable) (path : Option Text) :
    ∃ n, Json.longItem? (listed.map sectionDocument) = some n ∧
      load path (Json.print (indexDocument listed)) =
        .error (.rejected (.json (.numeral (.tooLongToRead n))) path) := by
  obtain ⟨n, hn⟩ := exists_longItem?_sectionDocument h
  have hparse : Json.parse (Json.print (indexDocument listed)) =
      .error (.numeral (.tooLongToRead n)) := by
    rw [Json.parse_print (plain_indexDocument listed), longNumber?_indexDocument, hn]
  have hguard : afterGuard (Json.print (indexDocument listed)) =
      .ok (Json.print (indexDocument listed)) := rfl
  have hsections : sectionsOf? (Json.print (indexDocument listed)) = none := by
    simp only [sectionsOf?, hparse]
  refine ⟨n, hn, ?_⟩
  simp only [load, read, hsections, readRegular, hguard, bind, Except.bind, hparse]
  rfl

lemma readSection_of_isSectionDocument {document : Json} {p : Part sources names}
    (h : IsSectionDocument document p) : readSection document = .ok p.loaded := by
  obtain ⟨fields, offset, map, rfl, hoffset, hline, hcolumn, hmap, hhas⟩ := h
  have hdecode : decodeRegular (.object map) = .ok (tableOf p.lines) := by
    rw [decodeRegular_of_hasMap hhas, decodeMappings_encode]
  simp only [readSection, sectionField, field, hoffset, hline, hcolumn, hmap, wholeNumber,
    Except.mapError, bind, Except.bind, hdecode]
  rfl

/-- A text of an index map is loaded with its sections in order. -/
theorem load_of_isIndexText {t : Text} {listed : List (Part sources names)}
    (h : IsIndexText t listed) (path : Option Text) :
    load path t = .ok (.indexed (Section.sort (listed.map Part.loaded))) := by
  obtain ⟨fields, items, hparse, hsections, hitems⟩ := h
  have hread : items.mapM readSection = .ok (listed.map Part.loaded) := by
    refine mapM_eq_ok (List.forall₂_map_right_iff.2 ?_)
    exact hitems.imp fun _ _ => readSection_of_isSectionDocument
  have hfound : sectionsOf? t = some (.list items) := by
    simp only [sectionsOf?, hparse, hsections]
  simp only [load, read, hfound, readSections, members?, hread]
  rfl

/-! ## Cuts and sections -/

lemma map_start_parts (lines : List (List (Segment sources names))) (cuts : List Cut) :
    (parts lines cuts).map Part.start = cuts := by
  induction cuts with
  | nil => rfl
  | cons cut cuts ih => rw [parts, List.map_cons, ih]

lemma pairwise_loaded_parts (lines : List (List (Segment sources names))) {cuts : List Cut}
    (h : cuts.Pairwise Cut.Before) :
    ((parts lines cuts).map Part.loaded).Pairwise Section.Before := by
  rw [← map_start_parts lines cuts, List.pairwise_map] at h
  refine List.pairwise_map.2 (h.imp ?_)
  intro p q hbefore
  unfold Cut.Before at hbefore
  simp only [Section.Before, Part.loaded]
  omega

lemma IsCutting.exists_eq_cons {lines : List (List (Segment sources names))} {cuts : List Cut}
    (h : IsCutting lines cuts) : ∃ later, cuts = ⟨0, 0⟩ :: later := by
  obtain ⟨later, hcuts⟩ := List.head?_eq_some_iff.1 h.first
  exact ⟨later, hcuts⟩

lemma IsCutting.startsAt {lines : List (List (Segment sources names))} {cuts : List Cut}
    (h : IsCutting lines cuts) : ∀ cut ∈ cuts, StartsAt lines cut := by
  obtain ⟨later, rfl⟩ := h.exists_eq_cons
  intro cut hcut
  rcases List.mem_cons.1 hcut with rfl | hcut
  · exact Or.inl rfl
  · exact Or.inr (h.atSegments cut hcut)

/-! ## Answers -/

lemma found?_parts {lines : List (List (Segment sources names))}
    (hlines : ∀ line ∈ lines, Ordered line) {cuts : List Cut} (hcuts : IsCutting lines cuts)
    (line column : Nat) :
    (SourceMap.indexed ((parts lines cuts).map Part.loaded)).found? (line + 1) column =
      (covering? (lines.getD line []) column).map Segment.position? := by
  have hstarts := hcuts.startsAt
  obtain ⟨later, rfl⟩ := hcuts.exists_eq_cons
  have hfirst : Cut.startsBy ⟨0, 0⟩ line column = true := by
    rw [Cut.startsBy_iff]
    dsimp only
    omega
  rw [found?_succ]
  exact lookup_parts hlines hstarts hfirst

/-- **An index map answers alike.** Sorted lines are cut at some of their segments, and the parts
are listed as the sections of an index map in any order.  The map of the lines is printed as a text
of its kind, and so is the index map if the numbers of its cuts can be read; if not, it is refused.
All texts of the two kinds, however they are laid out, are loaded, and the two maps answer every
position alike, in every session of the journal too. -/
theorem resolve_indexed_eq {lines : List (List (Segment sources names))}
    (hlines : ∀ line ∈ lines, Ordered line) {cuts : List Cut} (hcuts : IsCutting lines cuts)
    {listed : List (Part sources names)} (hlisted : listed.Perm (parts lines cuts))
    (path : Option Text) :
    IsMapText (Json.print (mapDocument sources names (encode lines))) sources names
        (encode lines) ∧
      ((∀ cut ∈ cuts, cut.Readable) → IsIndexText (Json.print (indexDocument listed)) listed) ∧
      ((∃ cut ∈ cuts, ¬ cut.Readable) →
        ∃ n, load path (Json.print (indexDocument listed)) =
          .error (.rejected (.json (.numeral (.tooLongToRead n))) path)) ∧
      ∀ t u : Text, IsMapText t sources names (encode lines) → IsIndexText u listed →
        ∃ whole indexed, load path t = .ok whole ∧ load path u = .ok indexed ∧
          ∀ line column : Int, indexed.resolve line column = whole.resolve line column ∧
            ∀ session name, indexed.resolveIn session name line column =
              whole.resolveIn session name line column := by
  have hstart : ∀ cut, cut ∈ cuts ↔ ∃ p ∈ listed, p.start = cut := by
    intro cut
    rw [← List.mem_map, (hlisted.map Part.start).mem_iff, map_start_parts]
  refine ⟨isMapText_print sources names (encode lines), ?_, ?_, ?_⟩
  · intro hreadable
    exact isIndexText_print fun p hp => hreadable p.start ((hstart p.start).2 ⟨p, hp, rfl⟩)
  · rintro ⟨cut, hcut, hnot⟩
    obtain ⟨p, hp, rfl⟩ := (hstart cut).1 hcut
    obtain ⟨n, -, hload⟩ := load_indexDocument_of_not_readable ⟨p, hp, hnot⟩ path
    exact ⟨n, hload⟩
  intro t u ht hu
  have hsort : Section.sort (listed.map Part.loaded) = (parts lines cuts).map Part.loaded :=
    Section.sort_eq_of_perm (pairwise_loaded_parts lines hcuts.increasing) (hlisted.map _)
  have hload := load_of_isIndexText hu path
  rw [hsort] at hload
  refine ⟨_, _, load_of_isMapText ht path, hload, ?_⟩
  intro line column
  have hfound : (SourceMap.indexed ((parts lines cuts).map Part.loaded)).found? line column =
      (SourceMap.regular (tableOf lines)).found? line column := by
    by_cases hposition : isPosition line column = true
    · obtain ⟨n, k, rfl, rfl⟩ := exists_of_isPosition hposition
      rw [found?_parts hlines hcuts, found?_tableOf hlines]
    · rw [found?_of_not_isPosition _ hposition, found?_of_not_isPosition _ hposition]
  exact ⟨by rw [resolve_eq_join, resolve_eq_join, hfound], resolveIn_congr hfound⟩

/-- Cuts of `overlaid`: two on the first line, and one after the line without segments. -/
def overlaidCuts : List Cut := [⟨0, 0⟩, ⟨0, 4⟩, ⟨2, 7⟩]

theorem resolve_indexed_eq_overlaid :
    (∀ line ∈ overlaid, Ordered line) ∧ IsCutting overlaid overlaidCuts ∧
      ∃ whole indexed,
        load none (Json.print (mapDocument ["a.js".toList, "b.js".toList] ["f".toList, []]
          (encode overlaid))) = .ok whole ∧
        load none (Json.print (indexDocument (parts overlaid overlaidCuts).reverse)) =
          .ok indexed ∧
        ∀ line column : Int, indexed.resolve line column = whole.resolve line column ∧
          ∀ session name, indexed.resolveIn session name line column =
            whole.resolveIn session name line column := by
  have hlines : ∀ line ∈ overlaid, Ordered line := by decide
  have hcuts : IsCutting overlaid overlaidCuts := ⟨rfl, by decide, by decide⟩
  have hreadable : ∀ cut ∈ overlaidCuts, cut.Readable := by
    unfold Cut.Readable
    decide
  obtain ⟨hmap, hindex, -, hall⟩ :=
    resolve_indexed_eq hlines hcuts (List.reverse_perm (parts overlaid overlaidCuts)) none
  exact ⟨hlines, hcuts, hall _ _ hmap (hindex hreadable)⟩

/-! ## A cut that is too far -/

/-- The least column whose number has too many digits. -/
def farColumn : Nat := 10 ^ Numeral.digitLimit

lemma length_digits_farColumn : (Numeral.digits farColumn).length = Numeral.digitLimit + 1 :=
  Numeral.length_digits_ten_pow Numeral.digitLimit

/-- A line with a second segment at that column. -/
def farLines : List (List (Segment ["a.js".toList] [])) :=
  [[⟨0, some ⟨⟨0, by decide⟩, 0, 0, none⟩⟩, ⟨farColumn, some ⟨⟨0, by decide⟩, 1, 0, none⟩⟩]]

/-- The line is cut at both of its segments. -/
def farCuts : List Cut := [⟨0, 0⟩, ⟨0, farColumn⟩]

/-- The map of that line is loaded, but the index map of its parts is not. -/
theorem index_refused_farCuts :
    (∀ line ∈ farLines, Ordered line) ∧ IsCutting farLines farCuts ∧
      (∃ m, load none (Json.print (mapDocument ["a.js".toList] [] (encode farLines))) = .ok m) ∧
      load none (Json.print (indexDocument (parts farLines farCuts))) =
        .error (.rejected (.json (.numeral (.tooLongToRead 4301))) none) := by
  have hpositive : 0 < farColumn := Nat.pow_pos (by decide)
  have hlines : ∀ line ∈ farLines, Ordered line := by
    intro line hline
    obtain rfl := List.mem_singleton.1 hline
    exact List.pairwise_pair.2 (Nat.zero_le farColumn)
  have hcuts : IsCutting farLines farCuts := by
    refine ⟨rfl, List.pairwise_pair.2 (Or.inr ⟨rfl, hpositive⟩), ?_⟩
    intro cut hcut
    obtain rfl := List.mem_singleton.1 hcut
    exact ⟨_, List.mem_cons_of_mem _ List.mem_cons_self, rfl⟩
  have hzero : Json.longNumber? (.int (0 : Nat)) = none := rfl
  have hfar : Json.longNumber? (.int farColumn) = some 4301 := by
    rw [Json.longNumber?]
    simp only [Int.natAbs_natCast, length_digits_farColumn]
    rfl
  have hlong : Json.longItem? ((parts farLines farCuts).map sectionDocument) = some 4301 := by
    simp only [farCuts, parts, List.map_cons, Json.longItem?_cons, longNumber?_sectionDocument,
      hzero, hfar, Option.none_or, Option.some_or]
  have hnot : ∃ p ∈ parts farLines farCuts, ¬ p.start.Readable := by
    refine ⟨_, List.mem_cons_of_mem _ List.mem_cons_self, ?_⟩
    intro hreadable
    have := hreadable.2
    simp only [length_digits_farColumn] at this
    omega
  obtain ⟨n, hn, hload⟩ := load_indexDocument_of_not_readable hnot none
  rw [hlong] at hn
  obtain rfl := Option.some.inj hn
  exact ⟨hlines, hcuts, ⟨_, load_of_isMapText (isMapText_print _ _ _) none⟩, hload⟩

end Retrace.SourceMap
