import Retrace.Proofs.Trace.Layout
import Retrace.Proofs.Trace.Reading

/-!
# Which traces are printed

Two things can keep a trace from being printed.  A layout that shortens needs a stem, and sources
that are neither all texts nor lists of a kind have none (`Stemmable`); and a position may have too
many digits to be written (`Writable`).  `print_cases` says that nothing else can, and which fault
comes of each.

Neither is seen when the map is loaded, so a map that is loaded may answer to a trace in a way that
cannot be printed (`not_prints_mixed`).  A map whose origins are all printable cannot
(`prints_iff`).
-/

namespace Retrace.Trace

open SourceMap (Position)

/-! ## Sources with a stem -/

/-- Sources that have a stem: fewer than two, texts, or lists with nothing to cut. -/
def Stemmable (excluded : Text) (sources : List Json) : Prop :=
  sources.length < 2 ∨ (∃ texts : List Text, sources = texts.map .text) ∨
    ∃ first rest shared, sources = (first :: rest).map .list ∧
      listLead excluded first rest = some shared ∧
      (shared = [] ∨ Json.alike (.list shared) (.list first) = true)

lemma mapM_asList?_eq_some_iff {sources : List Json} {lists : List (List Json)} :
    sources.mapM Json.asList? = some lists ↔ sources = lists.map .list := by
  refine mapM_eq_some_iff_map fun v items => ?_
  cases v <;> simp [Json.asList?]

lemma mapM_asList?_map (lists : List (List Json)) :
    (lists.map Json.list).mapM Json.asList? = some lists :=
  mapM_asList?_eq_some_iff.2 rfl

lemma stem_lists_of_none (excluded : Text) {first : List Json} {rest : List (List Json)}
    (hrest : rest ≠ []) (h : listLead excluded first rest = none) :
    stem excluded ((first :: rest).map .list) = .error .unlikeSources := by
  obtain ⟨second, more, rfl⟩ := List.exists_cons_of_ne_nil hrest
  have hall := mapM_asList?_map (second :: more)
  rw [List.map_cons] at hall
  simp only [List.map_cons, stem, hall, h]

lemma stem_lists_of_some (excluded : Text) {first shared : List Json} {rest : List (List Json)}
    (hrest : rest ≠ []) (h : listLead excluded first rest = some shared) :
    stem excluded ((first :: rest).map .list) =
      if shared.isEmpty || Json.alike (.list shared) (.list first) then .ok []
      else .error .sourceWithoutLead := by
  obtain ⟨second, more, rfl⟩ := List.exists_cons_of_ne_nil hrest
  have hall := mapM_asList?_map (second :: more)
  rw [List.map_cons] at hall
  simp only [List.map_cons, stem, hall, h]

/-- Sources of unlike kinds have no stem. -/
lemma stem_unlike (excluded : Text) {sources : List Json} (hmany : ¬ sources.length < 2)
    (htexts : ¬ ∃ texts : List Text, sources = texts.map .text)
    (hlists : ¬ ∃ lists : List (List Json), sources = lists.map .list) :
    stem excluded sources = .error .unlikeSources := by
  have hnotTexts : sources.mapM Json.asText? = none := by
    rw [Option.eq_none_iff_forall_ne_some]
    exact fun texts h => htexts ⟨texts, mapM_asText?_eq_some_iff.1 h⟩
  match sources with
  | [] | [_] => exact absurd (by simp) hmany
  | first :: second :: rest =>
    cases first with
    | list items =>
      have hnotLists : (second :: rest).mapM Json.asList? = none := by
        rw [Option.eq_none_iff_forall_ne_some]
        intro lists h
        exact hlists ⟨items :: lists, by rw [mapM_asList?_eq_some_iff.1 h, List.map_cons]⟩
      simp only [stem, hnotLists]
    | _ => simp only [stem, hnotTexts]

lemma stemmable_lists_iff {excluded : Text} {first : List Json} {rest : List (List Json)}
    (hrest : rest ≠ []) :
    Stemmable excluded ((first :: rest).map .list) ↔ ∃ shared,
      listLead excluded first rest = some shared ∧
        (shared = [] ∨ Json.alike (.list shared) (.list first) = true) := by
  constructor
  · rintro (hfew | ⟨texts, htexts⟩ | ⟨first', rest', shared, hlists, hlead⟩)
    · have hlength : 0 < rest.length := List.length_pos_of_ne_nil hrest
      rw [List.length_map, List.length_cons] at hfew
      omega
    · cases texts with
      | nil => cases htexts
      | cons t texts => cases htexts
    · have hinjective : Function.Injective Json.list := fun _ _ => Json.list.inj
      obtain ⟨rfl, rfl⟩ := List.cons.inj (List.map_injective_iff.2 hinjective hlists)
      exact ⟨shared, hlead⟩
  · rintro ⟨shared, hlead⟩
    exact Or.inr (Or.inr ⟨first, rest, shared, rfl, hlead⟩)

/-- Several lists have an empty stem, or none. -/
lemma stem_lists_cases (excluded : Text) {first : List Json} {rest : List (List Json)}
    (hrest : rest ≠ []) :
    (Stemmable excluded ((first :: rest).map .list) ∧
      stem excluded ((first :: rest).map .list) = .ok []) ∨
    (¬ Stemmable excluded ((first :: rest).map .list) ∧
      (stem excluded ((first :: rest).map .list) = .error .unlikeSources ∨
        stem excluded ((first :: rest).map .list) = .error .sourceWithoutLead)) := by
  rw [stemmable_lists_iff hrest]
  cases hlead : listLead excluded first rest with
  | none => exact Or.inr ⟨by simp, Or.inl (stem_lists_of_none excluded hrest hlead)⟩
  | some shared =>
    rw [stem_lists_of_some excluded hrest hlead]
    by_cases hcut : shared = [] ∨ Json.alike (.list shared) (.list first) = true
    · exact Or.inl ⟨⟨shared, rfl, hcut⟩, if_pos (by simpa using hcut)⟩
    · refine Or.inr ⟨?_, Or.inr (if_neg (by simpa using hcut))⟩
      rintro ⟨other, hother, hcut'⟩
      obtain rfl := Option.some.inj hother
      exact hcut hcut'

/-- Sources have a stem, which is empty unless they are texts, or they have none for their kinds. -/
lemma stem_cases (excluded : Text) (sources : List Json) :
    (Stemmable excluded sources ∧ ∃ st, stem excluded sources = .ok st ∧
      (st = [] ∨ ∃ texts : List Text, sources = texts.map .text)) ∨
    (¬ Stemmable excluded sources ∧ (stem excluded sources = .error .unlikeSources ∨
      stem excluded sources = .error .sourceWithoutLead)) := by
  by_cases hfew : sources.length < 2
  · refine Or.inl ⟨Or.inl hfew, [], ?_, Or.inl rfl⟩
    match sources with
    | [] | [_] => rfl
  by_cases htexts : ∃ texts : List Text, sources = texts.map .text
  · obtain ⟨texts, rfl⟩ := htexts
    exact Or.inl ⟨Or.inr (Or.inl ⟨texts, rfl⟩), _, stem_texts excluded texts, Or.inr ⟨texts, rfl⟩⟩
  by_cases hlists : ∃ lists : List (List Json), sources = lists.map .list
  · obtain ⟨lists, rfl⟩ := hlists
    match lists with
    | [] | [_] => exact absurd (by simp) hfew
    | first :: second :: more =>
      have hrest : second :: more ≠ [] := List.cons_ne_nil _ _
      rcases stem_lists_cases excluded hrest with ⟨hstemmable, hstem⟩ | hnot
      · exact Or.inl ⟨hstemmable, [], hstem, Or.inl rfl⟩
      · exact Or.inr hnot
  · refine Or.inr ⟨?_, Or.inl (stem_unlike excluded hfew htexts hlists)⟩
    rintro (h | h | ⟨first, rest, shared, h, -⟩)
    · exact hfew h
    · exact htexts h
    · exact hlists ⟨first :: rest, h⟩

/-! ## Entries -/

/-- An entry whose position, if it has one, has no number with too many digits to be written. -/
def Writable (e : Entry) : Prop :=
  ∀ f, e = .frame f → f.source ≠ none → ∀ n, f.line = some n ∨ f.column = some n →
    (Numeral.digits n.natAbs).length ≤ Numeral.digitLimit

lemma writable_verbatim (text : Text) : Writable (.verbatim text) := by
  intro f hf
  cases hf

lemma writable_of_unmapped {f : Frame} (h : f.source = none) : Writable (.frame f) := by
  intro g hg hmapped
  obtain rfl := Entry.frame.inj hg
  exact absurd h hmapped

lemma writable_frame_iff {f : Frame} (h : f.source ≠ none) :
    Writable (.frame f) ↔
      (∀ n, f.line = some n → (Numeral.digits n.natAbs).length ≤ Numeral.digitLimit) ∧
      ∀ n, f.column = some n → (Numeral.digits n.natAbs).length ≤ Numeral.digitLimit := by
  constructor
  · intro hwritable
    exact ⟨fun n hn => hwritable f rfl h n (Or.inl hn), fun n hn => hwritable f rfl h n (Or.inr hn)⟩
  · rintro ⟨hline, hcolumn⟩ g hg - n hn
    obtain rfl := Entry.frame.inj hg
    exact hn.elim (hline n) (hcolumn n)

lemma shownNumber_cases (number : Option Int) :
    ((∀ n, number = some n → (Numeral.digits n.natAbs).length ≤ Numeral.digitLimit) ∧
      ∃ t, shownNumber number = .ok t) ∨
    (¬ (∀ n, number = some n → (Numeral.digits n.natAbs).length ≤ Numeral.digitLimit) ∧
      shownNumber number = .error (.numeral .tooLongToWrite)) := by
  cases number with
  | none => exact Or.inl ⟨by simp, _, rfl⟩
  | some n =>
    by_cases hn : (Numeral.digits n.natAbs).length ≤ Numeral.digitLimit
    · exact Or.inl ⟨by simpa using hn, _, shownNumber_some hn⟩
    · refine Or.inr ⟨by simpa using hn, ?_⟩
      rw [shownNumber, Numeral.write, if_pos (not_le.1 hn)]
      rfl

/-- An entry whose source can be shown has a line if its numbers can be written, and fails for them
otherwise. -/
lemma entryLine_cases {st : Text} {e : Entry}
    (hsource : ∀ source, e.source? = some source → ∃ t, shownSource st source = .ok t) :
    (Writable e ∧ ∃ line, entryLine st e = .ok line) ∨
      (¬ Writable e ∧ entryLine st e = .error (.numeral .tooLongToWrite)) := by
  cases e with
  | verbatim text => exact Or.inl ⟨writable_verbatim text, text, rfl⟩
  | frame f =>
    cases hf : f.source with
    | none => exact Or.inl ⟨writable_of_unmapped hf, indent ++ f.raw, by simp only [entryLine, hf]⟩
    | some source =>
      obtain ⟨t, ht⟩ := hsource source hf
      rw [writable_frame_iff (by simp [hf])]
      rcases shownNumber_cases f.line with ⟨hline, lineText, hlineText⟩ | ⟨hline, hfault⟩
      · rcases shownNumber_cases f.column with ⟨hcolumn, columnText, hcolumnText⟩ |
          ⟨hcolumn, hfault⟩
        · refine Or.inl ⟨⟨hline, hcolumn⟩, mappedLine f.name t lineText columnText, ?_⟩
          simp only [entryLine, hf, ht, hlineText, hcolumnText]
          rfl
        · refine Or.inr ⟨fun h => hcolumn h.2, ?_⟩
          simp only [entryLine, hf, ht, hlineText, hfault]
          rfl
      · refine Or.inr ⟨fun h => hline h.1, ?_⟩
        simp only [entryLine, hf, ht, hfault]
        rfl

/-! ## Traces -/

/-- A layout has a stem for the sources of a trace, or none for their kinds. -/
lemma layout_stem_cases (l : Layout) (es : List Entry) :
    ((l.shorten = true → Stemmable l.excluded (Entry.sources es)) ∧ ∃ st, l.stem es = .ok st ∧
      (st = [] ∨ ∃ texts : List Text, Entry.sources es = texts.map .text)) ∨
    (¬ (l.shorten = true → Stemmable l.excluded (Entry.sources es)) ∧
      (l.stem es = .error .unlikeSources ∨ l.stem es = .error .sourceWithoutLead)) := by
  rw [Layout.stem]
  by_cases hshorten : l.shorten = true
  · simp only [hshorten, if_true, true_implies]
    exact stem_cases l.excluded (Entry.sources es)
  · rw [if_neg hshorten]
    exact Or.inl ⟨fun h => absurd h hshorten, [], rfl, Or.inl rfl⟩

/-- A source can be shown under no stem, and a text under any. -/
lemma exists_shownSource {es : List Entry} {st : Text}
    (hst : st = [] ∨ ∃ texts : List Text, Entry.sources es = texts.map .text) {e : Entry}
    (he : e ∈ es) {source : Json} (hsource : e.source? = some source) :
    ∃ t, shownSource st source = .ok t := by
  rcases hst with rfl | ⟨texts, htexts⟩
  · unfold shownSource
    split
    · exact ⟨[], rfl⟩
    · cases source with
      | text t => exact ⟨_, rfl⟩
      | _ => exact ⟨_, rfl⟩
  · obtain ⟨t, -, rfl⟩ := exists_text_of_mem htexts he hsource
    exact ⟨_, shownSource_text st t⟩

/-- How printing ends: in a text, without a stem, or at a number that is too long. -/
theorem print_cases (l : Layout) (es : List Entry) :
    ((l.shorten = true → Stemmable l.excluded (Entry.sources es)) ∧ (∀ e ∈ es, Writable e) ∧
      ∃ out, l.print es = .ok out) ∨
    (¬ (l.shorten = true → Stemmable l.excluded (Entry.sources es)) ∧
      (l.print es = .error .unlikeSources ∨ l.print es = .error .sourceWithoutLead)) ∨
    (¬ (∀ e ∈ es, Writable e) ∧ l.print es = .error (.numeral .tooLongToWrite)) := by
  rcases layout_stem_cases l es with ⟨hstemmable, st, hst, hkinds⟩ | ⟨hnot, hfault⟩
  · have hprint : l.print es = (es.mapM (entryLine st)).map (Text.join ['\n']) := by
      rw [Layout.print, Layout.lines, hst]
      rfl
    have hline (e : Entry) (he : e ∈ es) := entryLine_cases fun source hsource =>
      exists_shownSource hkinds he hsource
    rw [hprint]
    cases hlines : es.mapM (entryLine st) with
    | ok lines =>
      refine Or.inl ⟨hstemmable, ?_, _, rfl⟩
      intro e he
      rcases hline e he with ⟨hwritable, -⟩ | ⟨-, hfault⟩
      · exact hwritable
      · obtain ⟨text, htext⟩ := exists_ok_of_mapM hlines he
        cases htext.symm.trans hfault
    | error f =>
      obtain ⟨before, e, after, rfl, -, hfailed⟩ := mapM_eq_error_iff.1 hlines
      have he : e ∈ before ++ e :: after := by simp
      rcases hline e he with ⟨-, text, htext⟩ | ⟨hnot, hfault⟩
      · cases htext.symm.trans hfailed
      · obtain rfl := Except.error.inj (hfailed.symm.trans hfault)
        exact Or.inr (Or.inr ⟨fun hall => hnot (hall e he), rfl⟩)
  · refine Or.inr (Or.inl ⟨hnot, ?_⟩)
    rw [Layout.print, Layout.lines]
    rcases hfault with hfault | hfault
    · exact Or.inl (by rw [hfault]; rfl)
    · exact Or.inr (by rw [hfault]; rfl)

/-- A trace is printed exactly if its sources have a stem, where the layout asks for one, and its
numbers can be written. -/
theorem exists_print_iff (l : Layout) (es : List Entry) :
    (∃ out, l.print es = .ok out) ↔
      (l.shorten = true → Stemmable l.excluded (Entry.sources es)) ∧ ∀ e ∈ es, Writable e := by
  rcases print_cases l es with ⟨hstemmable, hwritable, hout⟩ | ⟨hnot, hfault⟩ | ⟨hnot, hfault⟩
  · exact iff_of_true hout ⟨hstemmable, hwritable⟩
  · refine iff_of_false ?_ fun hall => hnot hall.1
    rintro ⟨out, hout⟩
    rcases hfault with hfault | hfault
    · cases hout.symm.trans hfault
    · cases hout.symm.trans hfault
  · refine iff_of_false ?_ fun hall => hnot hall.2
    rintro ⟨out, hout⟩
    cases hout.symm.trans hfault

/-- A trace that is not printed fails for the kinds of its sources or for a number that is too
long. -/
lemma fault_of_print {l : Layout} {es : List Entry} {fault : Fault}
    (h : l.print es = .error fault) :
    fault = .unlikeSources ∨ fault = .sourceWithoutLead ∨ fault = .numeral .tooLongToWrite := by
  rcases print_cases l es with ⟨-, -, out, hout⟩ | ⟨-, hunlike | hlead⟩ | ⟨-, hnumeral⟩
  · cases h.symm.trans hout
  · exact Or.inl (Except.error.inj (h.symm.trans hunlike))
  · exact Or.inr (Or.inl (Except.error.inj (h.symm.trans hlead)))
  · exact Or.inr (Or.inr (Except.error.inj (h.symm.trans hnumeral)))

/-! ## Traces that were read -/

/-- An entry from a map with printable origins can be written, and its source is a text. -/
lemma printable_entryOf {m : SourceMap} (hm : ∀ o ∈ m.origins, o.Printable) (line : Text) :
    Writable (entryOf m line) ∧
      ∀ source, (entryOf m line).source? = some source → ∃ t, source = .text t := by
  rcases entryOf_cases m line with hverbatim | ⟨g, -, hresolved⟩
  · rw [hverbatim]
    exact ⟨writable_verbatim line, by simp [Entry.source?]⟩
  · rw [hresolved]
    cases hanswer : m.resolve g.line g.column with
    | none => exact ⟨writable_of_unmapped rfl, by simp [resolvedEntry, Entry.source?]⟩
    | some p =>
      have hp := SourceMap.printable_of_resolve hm hanswer
      constructor
      · refine (writable_frame_iff (by simp)).2 ⟨?_, ?_⟩
        · rintro n hn
          obtain rfl := Option.some.inj hn
          exact hp.line_length_le
        · rintro n hn
          obtain rfl := Option.some.inj hn
          exact hp.column_length_le
      · intro source hsource
        obtain rfl := Option.some.inj hsource
        exact ⟨_, hp.source⟩

lemma exists_texts_of_forall {sources : List Json}
    (h : ∀ source ∈ sources, ∃ t, source = .text t) :
    ∃ texts : List Text, sources = texts.map .text := by
  induction sources with
  | nil => exact ⟨[], rfl⟩
  | cons source sources ih =>
    obtain ⟨⟨t, rfl⟩, hrest⟩ := List.forall_mem_cons.1 h
    obtain ⟨texts, rfl⟩ := ih hrest
    exact ⟨t :: texts, rfl⟩

/-- **Printing.** The entries of a trace are printed exactly if their sources have a stem, where the
layout asks for one, and their numbers can be written; if they are not, it is for the kinds of the
sources or for a number that is too long.  So they are printed in every layout if the origins of the
map are printable. -/
theorem prints_iff {m : SourceMap} {lines : List Text} {es : List Entry}
    (h : entries m lines = .ok es) :
    (∀ l : Layout, (∃ out, l.print es = .ok out) ↔
      (l.shorten = true → Stemmable l.excluded (Entry.sources es)) ∧ ∀ e ∈ es, Writable e) ∧
    (∀ (l : Layout) (fault : Fault), l.print es = .error fault →
      fault = .unlikeSources ∨ fault = .sourceWithoutLead ∨ fault = .numeral .tooLongToWrite) ∧
    ((∀ o ∈ m.origins, o.Printable) → ∀ l : Layout, ∃ out, l.print es = .ok out) := by
  refine ⟨fun l => exists_print_iff l es, fun l fault => fault_of_print, fun hm l => ?_⟩
  obtain ⟨before, after, -, rfl⟩ := exists_of_entries h
  rw [exists_print_iff]
  constructor
  · rintro -
    refine Or.inr (Or.inl (exists_texts_of_forall ?_))
    intro source hsource
    obtain ⟨e, he, hsource⟩ := List.mem_filterMap.1 hsource
    obtain ⟨line, -, rfl⟩ := List.mem_map.1 he
    exact (printable_entryOf hm line).2 source hsource
  · intro e he
    obtain ⟨line, -, rfl⟩ := List.mem_map.1 he
    exact (printable_entryOf hm line).1

/-! ### Sources of unlike kinds -/

/-- A map of a source that is a number and one that is a text. -/
def mixedText : Text :=
  "\x7b\"sources\":[1,\"b.js\"],\"names\":[],\"mappings\":\"AAAA,CCAA\"\x7d".toList

/-- Its tokens, one in each of the sources. -/
def mixed : SourceMap :=
  .regular [[⟨0, some ⟨.int 1, 0, 0, none⟩⟩, ⟨1, some ⟨.text "b.js".toList, 0, 0, none⟩⟩]]

lemma load_mixedText : SourceMap.load none mixedText = .ok mixed := by cbv

/-- A trace that touches both sources. -/
def mixedLines : List Text := ["JavascriptException: x".toList, "f@1:0".toList, "g@1:1".toList]

/-- Its entries. -/
def mixedEntries : List Entry := [.verbatim "JavascriptException: x".toList,
  .frame ⟨some (.int 1), some 1, some 0, none, "f@1:0".toList⟩,
  .frame ⟨some (.text "b.js".toList), some 1, some 0, none, "g@1:1".toList⟩]

lemma entries_mixedLines : entries mixed mixedLines = .ok mixedEntries := by cbv

/-- The trace is printed in full, but not with the stem cut. -/
theorem prints_iff_mixed :
    (∃ out, Layout.print { shorten := false } mixedEntries = .ok out) ∧
      ¬ ∃ out, Layout.print {} mixedEntries = .ok out := by
  obtain ⟨hiff, -, -⟩ := prints_iff entries_mixedLines
  have hshort : ∀ n : Int, (some 1 = some n ∨ some 0 = some n) →
      (Numeral.digits n.natAbs).length ≤ Numeral.digitLimit := by
    rintro n (hn | hn) <;> cases hn <;> decide
  have hwritable : ∀ e ∈ mixedEntries, Writable e := by
    intro e he
    simp only [mixedEntries, List.mem_cons, List.not_mem_nil, or_false] at he
    rcases he with rfl | rfl | rfl
    · exact writable_verbatim _
    · exact (writable_frame_iff (by simp)).2
        ⟨fun n hn => hshort n (Or.inl hn), fun n hn => hshort n (Or.inr hn)⟩
    · exact (writable_frame_iff (by simp)).2
        ⟨fun n hn => hshort n (Or.inl hn), fun n hn => hshort n (Or.inr hn)⟩
  refine ⟨(hiff _).2 ⟨by simp, hwritable⟩, ?_⟩
  have hsources : Entry.sources mixedEntries = [.int 1, .text "b.js".toList] := rfl
  rw [hiff, hsources]
  rintro ⟨hstem, -⟩
  rcases hstem rfl with hfew | ⟨texts, htexts⟩ | ⟨first, rest, shared, hlists, -⟩
  · exact absurd hfew (by simp)
  · cases texts <;> cases htexts
  · cases hlists

/-- A map that is loaded, and a trace that is read in it, whose entries are not printed. -/
theorem not_prints_mixed :
    SourceMap.load none mixedText = .ok mixed ∧ entries mixed mixedLines = .ok mixedEntries ∧
      Layout.print {} mixedEntries = .error .unlikeSources :=
  ⟨load_mixedText, entries_mixedLines, rfl⟩

end Retrace.Trace
