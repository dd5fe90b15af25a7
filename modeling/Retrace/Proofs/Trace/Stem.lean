import Retrace.Proofs.Text.Leads
import Retrace.Proofs.Trace.Layout

/-!
# What the stem leaves of the sources

The stem is cut from every source of a trace, and there should be something left of each.  The
definition looks to this twice, and both times it looks too little.

It resets a stem that is the first source, but a later source may be the stem as well: this happens
exactly if a later source is one that all others start with (`textStem_spares_iff`), and then this
source is shown as `./`.  The order of the sources decides, and `not_spares_backup` has a trace for
which one order spares all sources and the other does not.

The reset also is what keeps a source that all frames share from being cut, but it comes after the
stem was cut back because of the excluded text.  So a single source is shown in full exactly if the
excluded text does not come up in it, or leaves nothing of it (`textStem_replicate`).
-/

namespace Retrace.Trace

variable {excluded : Text} {sources : List Text}

/-! ## The stem before it is reset -/

/-- An excluded text does not come up in a text.  The empty text excludes nothing. -/
def Admits (excluded t : Text) : Prop := excluded = [] ∨ ¬ excluded <:+: t

/-- What sources share, cut back because of the excluded text. -/
def sharedStem (excluded : Text) (sources : List Text) : Text :=
  if excluded.isEmpty then Text.sharedLead sources
  else Text.leadClearOf excluded (Text.sharedLead sources)

/-- The leads of the stem are those of all sources that the excluded text admits. -/
lemma prefix_sharedStem_iff (hne : sources ≠ []) {lead : Text} :
    lead <+: sharedStem excluded sources ↔ (∀ s ∈ sources, lead <+: s) ∧ Admits excluded lead := by
  rw [← Text.prefix_sharedLead_iff hne, sharedStem]
  by_cases hempty : excluded = []
  · simp [hempty, Admits]
  · rw [if_neg (by simpa using hempty), Text.prefix_leadClearOf_iff hempty]
    simp [hempty, Admits]

lemma isPrefix_sharedStem {s : Text} (hs : s ∈ sources) : sharedStem excluded sources <+: s :=
  ((prefix_sharedStem_iff (List.ne_nil_of_mem hs)).1 List.prefix_rfl).1 s hs

lemma admits_sharedStem (hne : sources ≠ []) : Admits excluded (sharedStem excluded sources) :=
  ((prefix_sharedStem_iff hne).1 List.prefix_rfl).2

/-- A source is the stem if all others start with it and the excluded text admits it. -/
lemma sharedStem_eq_iff {s : Text} (hs : s ∈ sources) :
    sharedStem excluded sources = s ↔ (∀ u ∈ sources, s <+: u) ∧ Admits excluded s := by
  rw [← prefix_sharedStem_iff (List.ne_nil_of_mem hs)]
  have hstem : sharedStem excluded sources <+: s := isPrefix_sharedStem hs
  constructor
  · rintro rfl
    exact List.prefix_rfl
  · intro hlead
    exact hstem.eq_of_length_le hlead.length_le

/-! ## The reset -/

lemma textStem_cons_cons (excluded first second : Text) (rest : List Text) :
    textStem excluded (first :: second :: rest) =
      if sharedStem excluded (first :: second :: rest) = first then []
      else sharedStem excluded (first :: second :: rest) := rfl

/-- A stem that is not empty was not reset. -/
lemma textStem_of_ne_nil (h : textStem excluded sources ≠ []) :
    textStem excluded sources = sharedStem excluded sources ∧
      sources.head? ≠ some (sharedStem excluded sources) := by
  match sources with
  | [] | [_] => exact absurd rfl h
  | first :: second :: rest =>
    rw [textStem_cons_cons] at h ⊢
    split at h
    · exact absurd rfl h
    · next hfirst =>
      rw [if_neg hfirst]
      exact ⟨rfl, fun hhead => hfirst (Option.some.inj hhead).symm⟩

lemma isPrefix_textStem {s : Text} (hs : s ∈ sources) : textStem excluded sources <+: s := by
  by_cases h : textStem excluded sources = []
  · rw [h]
    exact List.nil_prefix
  · rw [(textStem_of_ne_nil h).1]
    exact isPrefix_sharedStem hs

lemma textStem_eq_sharedStem (hlength : 2 ≤ sources.length)
    (h : sources.head? ≠ some (sharedStem excluded sources)) :
    textStem excluded sources = sharedStem excluded sources := by
  match sources with
  | [] | [_] => simp at hlength
  | first :: second :: rest =>
    rw [textStem_cons_cons, if_neg]
    intro hfirst
    rw [hfirst] at h
    exact h rfl

/-! ## Sources that are spared -/

/-- No source is cut away whole: each starts with the stem, unless that is empty, and goes on. -/
def Spares (excluded : Text) (sources : List Text) : Prop :=
  textStem excluded sources ≠ [] →
    ∀ s ∈ sources, textStem excluded sources <+: s ∧ textStem excluded sources ≠ s

/-- A source leads the others: it is not empty, all of them start with it and the excluded text
admits it. -/
structure Leads (excluded : Text) (sources : List Text) (s : Text) : Prop where
  ne_nil : s ≠ []
  prefix_all : ∀ u ∈ sources, s <+: u
  admitted : Admits excluded s

lemma spares_iff : Spares excluded sources ↔
    ∀ s ∈ sources, Leads excluded sources s → sources.head? = some s := by
  constructor
  · intro hspares s hs hleads
    by_contra hhead
    have hstem : sharedStem excluded sources = s :=
      (sharedStem_eq_iff hs).2 ⟨hleads.prefix_all, hleads.admitted⟩
    have hlength : 2 ≤ sources.length := by
      match sources, hs with
      | [first], hs => exact absurd (by rw [List.mem_singleton.1 hs]; rfl) hhead
      | _ :: _ :: _, _ => simp
    have htext : textStem excluded sources = s := by
      rw [textStem_eq_sharedStem hlength (by rwa [hstem]), hstem]
    exact (hspares (by rw [htext]; exact hleads.ne_nil) s hs).2 htext
  · intro hfirst hne s hs
    obtain ⟨htext, hhead⟩ := textStem_of_ne_nil hne
    refine ⟨isPrefix_textStem hs, ?_⟩
    rw [htext] at hne ⊢
    rintro rfl
    obtain ⟨hall, hadmits⟩ := (sharedStem_eq_iff hs).1 rfl
    exact hhead (hfirst _ hs ⟨hne, hall, hadmits⟩)

lemma Leads.perm {other : List Text} {s : Text} (h : Leads excluded sources s)
    (hperm : other.Perm sources) : Leads excluded other s :=
  ⟨h.ne_nil, fun u hu => h.prefix_all u (hperm.mem_iff.1 hu), h.admitted⟩

/-- Sources are spared in every order exactly if one that leads the others is the only one. -/
lemma forall_perm_spares_iff :
    (∀ other : List Text, other.Perm sources → Spares excluded other) ↔
      ∀ s ∈ sources, Leads excluded sources s → ∀ u ∈ sources, u = s := by
  constructor
  · intro hspares s hs hleads u hu
    have hperm : (u :: sources.erase u).Perm sources := (List.perm_cons_erase hu).symm
    have hfirst := spares_iff.1 (hspares _ hperm) s (hperm.mem_iff.2 hs) (hleads.perm hperm)
    exact Option.some.inj hfirst
  · intro honly other hperm
    rw [spares_iff]
    intro s hs hleads
    have hsame := honly s (hperm.mem_iff.1 hs) (hleads.perm hperm.symm)
    cases other with
    | nil => cases hs
    | cons first rest => rw [List.head?_cons, hsame first (hperm.mem_iff.1 List.mem_cons_self)]

lemma shortened_append {stem : Text} (h : stem ≠ []) (rest : Text) :
    shortened stem (stem ++ rest) = "./".toList ++ rest := by
  rw [shortened, if_neg (by simpa using h), Text.dropLead?_append]

/-- A source is shown without anything behind the stem if it is the stem. -/
lemma shortened_eq_iff {stem s : Text} (hne : stem ≠ []) (h : stem <+: s) :
    shortened stem s = "./".toList ↔ stem = s := by
  obtain ⟨rest, rfl⟩ := h
  rw [shortened_append hne]
  simp

/-- **Sources that are spared.** A stem that is not empty is what all sources start with and not the
first of them; a source of which it leaves nothing is the stem itself.  There is none exactly if no
source but the first leads the others, and there is none in whatever order exactly if no source
leads any but its like. -/
theorem textStem_spares_iff (excluded : Text) (sources : List Text) :
    (textStem excluded sources ≠ [] →
      (∀ s ∈ sources, textStem excluded sources <+: s) ∧
      sources.head? ≠ some (textStem excluded sources) ∧
      ∀ s ∈ sources, shortened (textStem excluded sources) s = "./".toList ↔
        textStem excluded sources = s) ∧
    (Spares excluded sources ↔
      ∀ s ∈ sources, Leads excluded sources s → sources.head? = some s) ∧
    ((∀ other : List Text, other.Perm sources → Spares excluded other) ↔
      ∀ s ∈ sources, Leads excluded sources s → ∀ u ∈ sources, u = s) := by
  refine ⟨fun hne => ?_, spares_iff, forall_perm_spares_iff⟩
  obtain ⟨htext, hhead⟩ := textStem_of_ne_nil hne
  exact ⟨fun s hs => isPrefix_textStem hs, by rwa [htext],
    fun s hs => shortened_eq_iff hne (isPrefix_textStem hs)⟩

/-- Sources in one directory, one of which starts with the name of another but for its ending. -/
def directory : List Text := ["/a/x.js".toList, "/a/x.test.js".toList, "/a/y.js".toList]

theorem textStem_spares_iff_directory :
    textStem defaultExcludedMarker directory ≠ [] ∧
      (∀ s ∈ directory, textStem defaultExcludedMarker directory <+: s) ∧
      ∀ other : List Text, other.Perm directory → Spares defaultExcludedMarker other := by
  obtain ⟨hstem, -, hperm⟩ := textStem_spares_iff defaultExcludedMarker directory
  have hne : textStem defaultExcludedMarker directory ≠ [] := by decide
  refine ⟨hne, (hstem hne).1, hperm.2 ?_⟩
  intro s hs hleads
  have hnone : ∀ s ∈ directory, ¬ ∀ u ∈ directory, s <+: u := by decide
  exact absurd hleads.prefix_all (hnone s hs)

/-- A copy of a source under a longer name, and the source. -/
def backup : List Text := ["/a/x.js.orig".toList, "/a/x.js".toList]

/-- The source is shown as nothing but `./` if its copy comes first, and in full otherwise. -/
theorem not_spares_backup :
    ¬ Spares defaultExcludedMarker backup ∧
      shortened (textStem defaultExcludedMarker backup) "/a/x.js".toList = "./".toList ∧
      Spares defaultExcludedMarker backup.reverse := by
  have hstem : textStem defaultExcludedMarker backup = "/a/x.js".toList := by decide
  have hreverse : textStem defaultExcludedMarker backup.reverse = [] := by decide
  refine ⟨fun hspares => ?_, by rw [hstem]; rfl, fun hne => absurd hreverse hne⟩
  have hproper := (hspares (by rw [hstem]; decide) "/a/x.js".toList (by decide)).2
  exact hproper hstem

/-! ## One source for all frames -/

lemma sharedStem_replicate (excluded s : Text) (n : Nat) :
    sharedStem excluded (List.replicate (n + 1) s) =
      if excluded.isEmpty then s else Text.leadClearOf excluded s := by
  have hne : List.replicate (n + 1) s ≠ [] := by simp
  have hmem : s ∈ List.replicate (n + 1) s := by simp
  have hshared : Text.sharedLead (List.replicate (n + 1) s) = s := by
    have hlead := (Text.prefix_sharedLead_iff hne).1 List.prefix_rfl s hmem
    refine hlead.eq_of_length_le ((Text.prefix_sharedLead_iff hne).2 ?_).length_le
    intro t ht
    rw [List.eq_of_mem_replicate ht]
  rw [sharedStem, hshared]

/-- Frames of one source have no stem if there are less than two, or if the excluded text does not
come up in the source. -/
lemma textStem_replicate_of_admits {excluded s : Text} {n : Nat}
    (h : n < 2 ∨ Admits excluded s) : textStem excluded (List.replicate n s) = [] := by
  match n with
  | 0 | 1 => rfl
  | n + 2 =>
    have hadmits : Admits excluded s := h.resolve_left (by omega)
    have hstem : sharedStem excluded (List.replicate (n + 2) s) = s := by
      refine (sharedStem_eq_iff (by simp)).2 ⟨?_, hadmits⟩
      intro u hu
      rw [List.eq_of_mem_replicate hu]
    rw [List.replicate_succ, List.replicate_succ] at hstem ⊢
    rw [textStem_cons_cons, if_pos hstem]

/-- Otherwise the stem is the source, cut back because of the excluded text. -/
lemma textStem_replicate_of_not_admits {excluded s : Text} {n : Nat} (hn : 2 ≤ n)
    (h : ¬ Admits excluded s) :
    textStem excluded (List.replicate n s) = Text.leadClearOf excluded s := by
  have hne : excluded ≠ [] := fun hempty => h (Or.inl hempty)
  obtain ⟨n, rfl⟩ := Nat.exists_eq_add_of_le' hn
  have hstem := sharedStem_replicate excluded s (n + 1)
  rw [if_neg (by simpa using hne)] at hstem
  rw [← hstem]
  refine textStem_eq_sharedStem (by simp) ?_
  intro hhead
  have hfirst : sharedStem excluded (List.replicate (n + 2) s) = s :=
    (Option.some.inj hhead).symm
  exact h (hfirst ▸ admits_sharedStem (by simp))

/-- A source that starts with the stem is shown in full only if there is no stem, or if the stem is
what is shown in its place. -/
lemma shortened_eq_self_iff {stem s : Text} (h : stem <+: s) :
    shortened stem s = s ↔ stem = [] ∨ stem = "./".toList := by
  obtain ⟨rest, rfl⟩ := h
  by_cases hne : stem = []
  · simp [hne, shortened]
  · rw [shortened_append hne, List.append_left_inj]
    simp only [hne, false_or, eq_comm]

/-- The text of a source comes between two texts that do not depend on it. -/
lemma exists_mappedLine_eq (name : Option Text) (line column : Text) :
    ∃ before after : Text, ∀ source, mappedLine name source line column =
      before ++ source ++ after := by
  rcases name with _ | _ | ⟨c, name⟩
  · exact ⟨indent ++ "at ".toList, ':' :: line ++ ':' :: column, by simp [mappedLine]⟩
  · exact ⟨indent ++ "at ".toList, ':' :: line ++ ':' :: column, by simp [mappedLine]⟩
  · exact ⟨indent ++ "at ".toList ++ (c :: name) ++ " (".toList,
      ':' :: line ++ ':' :: column ++ [')'], by simp [mappedLine]⟩

/-- The line of a frame is the one it has without a stem if its source is shown in full, and
otherwise not, unless it has none for its numbers. -/
lemma entryLine_eq_iff {stem s line : Text} {e : Entry} (hsource : e.source? = some (.text s))
    (hline : entryLine [] e = .ok line) :
    entryLine stem e = .ok line ↔ shortened stem s = s := by
  cases e with
  | verbatim text => cases hsource
  | frame f =>
    have hf : f.source = some (.text s) := hsource
    simp only [entryLine, hf, shownSource_text] at hline ⊢
    obtain ⟨source, hshown, hrest⟩ := bind_eq_ok_iff.1 hline
    obtain rfl := Except.ok.inj hshown
    obtain ⟨lineText, hlineText, hrest⟩ := bind_eq_ok_iff.1 hrest
    obtain ⟨columnText, hcolumnText, hrest⟩ := bind_eq_ok_iff.1 hrest
    obtain rfl := Except.ok.inj hrest
    obtain ⟨before, after, hform⟩ := exists_mappedLine_eq f.name lineText columnText
    have hshort : shortened [] s = s := rfl
    rw [hlineText, hcolumnText, hshort, hform]
    change Except.ok (mappedLine f.name (shortened stem s) lineText columnText) = _ ↔ _
    rw [hform, Except.ok.injEq, List.append_left_inj, List.append_right_inj]

lemma entryLine_of_unmapped {e : Entry} (h : e.source? = none) (stem : Text) :
    entryLine stem e = entryLine [] e := by
  cases e with
  | verbatim text => rfl
  | frame f =>
    have hf : f.source = none := h
    simp only [entryLine, hf]

/-- The lines of entries are those they have without a stem if all sources are shown in full. -/
lemma mapM_entryLine_eq_iff {stem : Text} {es : List Entry} {lines : List Text}
    (htexts : ∀ v ∈ Entry.sources es, ∃ s, v = .text s)
    (hlines : es.mapM (entryLine []) = .ok lines) :
    es.mapM (entryLine stem) = .ok lines ↔
      ∀ s, .text s ∈ Entry.sources es → shortened stem s = s := by
  rw [mapM_eq_ok_iff] at hlines ⊢
  induction hlines with
  | nil => simp [Entry.sources]
  | @cons e line es lines hline hrest ih =>
    rw [List.forall₂_cons]
    cases hsource : e.source? with
    | none =>
      have hsources : Entry.sources (e :: es) = Entry.sources es := List.filterMap_cons_none hsource
      rw [hsources] at htexts ⊢
      rw [entryLine_of_unmapped hsource, ih htexts]
      exact and_iff_right hline
    | some v =>
      have hsources : Entry.sources (e :: es) = v :: Entry.sources es :=
        List.filterMap_cons_some hsource
      rw [hsources, List.forall_mem_cons] at htexts
      obtain ⟨⟨s, rfl⟩, htexts⟩ := htexts
      rw [entryLine_eq_iff hsource hline, ih htexts, hsources]
      simp only [List.mem_cons, Json.text.injEq, forall_eq_or_imp]

/-- The lines of a trace whose sources are shortened are those under their stem. -/
lemma lines_shorten (excluded : Text) {es : List Entry} {sources : List Text}
    (hsources : Entry.sources es = sources.map .text) :
    Layout.lines { shorten := true, excluded } es =
      es.mapM (entryLine (textStem excluded sources)) := by
  rw [Layout.lines, Layout.stem, if_pos rfl, hsources, stem_texts]
  rfl

/-- A trace that has lines has the same with its sources shortened if there is no stem, or if the
stem is what is shown in its place, and only then. -/
lemma lines_shorten_iff {excluded : Text} {es : List Entry} {sources lines : List Text}
    (hsources : Entry.sources es = sources.map .text)
    (hlines : Layout.lines { shorten := false, excluded } es = .ok lines) :
    Layout.lines { shorten := true, excluded } es = .ok lines ↔
      textStem excluded sources = [] ∨ textStem excluded sources = "./".toList := by
  have htexts : ∀ v ∈ Entry.sources es, ∃ s, v = .text s := by
    intro v hv
    rw [hsources] at hv
    obtain ⟨s, -, rfl⟩ := List.mem_map.1 hv
    exact ⟨s, rfl⟩
  rw [lines_shorten excluded hsources, mapM_entryLine_eq_iff htexts hlines, hsources]
  constructor
  · intro hfull
    cases sources with
    | nil => exact Or.inl rfl
    | cons s rest =>
      exact (shortened_eq_self_iff (isPrefix_textStem List.mem_cons_self)).1 (hfull s (by simp))
  · intro hstem s hs
    rw [List.mem_map_of_injective fun _ _ h => Json.text.inj h] at hs
    exact (shortened_eq_self_iff (isPrefix_textStem hs)).2 hstem

/-- **One source for all frames.** The frames of a single source have no stem if there are less than
two, or if the excluded text does not come up in the source, or if it is no more than the first
character of the source.  Otherwise the stem is the source up to the last character of the first
excluded text.  So the lines of the trace are those that show the source in full if there is no
stem, or if it is `./`, and only then. -/
theorem textStem_replicate (excluded s : Text) (n : Nat) :
    (textStem excluded (List.replicate n s) = [] ↔
      n < 2 ∨ Admits excluded s ∨ ∃ c rest, excluded = [c] ∧ s = c :: rest) ∧
    (∀ piece rest, 2 ≤ n → excluded ≠ [] → s = piece ++ excluded ++ rest →
      Text.Clear excluded piece →
      textStem excluded (List.replicate n s) = piece ++ excluded.dropLast) ∧
    ∀ (es : List Entry) (lines : List Text), Entry.sources es = List.replicate n (.text s) →
      Layout.lines { shorten := false, excluded } es = .ok lines →
      (Layout.lines { shorten := true, excluded } es = .ok lines ↔
        textStem excluded (List.replicate n s) = [] ∨
          textStem excluded (List.replicate n s) = "./".toList) := by
  refine ⟨?_, ?_, ?_⟩
  · by_cases hfull : n < 2 ∨ Admits excluded s
    · rw [textStem_replicate_of_admits hfull, ← or_assoc]
      exact iff_of_true rfl (Or.inl hfull)
    · obtain ⟨hn, hadmits⟩ := not_or.1 hfull
      obtain ⟨hne, hin⟩ := not_or.1 hadmits
      rw [textStem_replicate_of_not_admits (not_lt.1 hn) hadmits,
        Text.leadClearOf_eq_nil_iff hne (not_not.1 hin)]
      simp [hn, hadmits]
  · intro piece rest hn hne hs hclear
    have hin : ¬ Admits excluded s := by
      rintro (hempty | hout)
      · exact hne hempty
      · exact hout ⟨piece, rest, hs.symm⟩
    rw [textStem_replicate_of_not_admits hn hin, hs, Text.leadClearOf_append hne hclear]
  · intro es lines hsources hlines
    exact lines_shorten_iff (by rw [hsources, List.map_replicate]) hlines

/-- Two mapped frames of one source. -/
def framesOf (s : Text) : List Entry :=
  [.frame ⟨some (.text s), some 1, some 0, none, "f@1:0".toList⟩,
    .frame ⟨some (.text s), some 2, some 4, none, "g@1:7".toList⟩]

/-- A source of the package, and one of a package that it depends on. -/
def ownSource : Text := "/p/x.js".toList

@[inherit_doc ownSource]
def dependency : Text := "/p/node_modules/x.js".toList

theorem textStem_replicate_own :
    Layout.lines {} (framesOf ownSource) =
        .ok ["  at /p/x.js:1:0".toList, "  at /p/x.js:2:4".toList] ∧
      textStem defaultExcludedMarker (List.replicate 2 dependency) = "/p/node_module".toList := by
  obtain ⟨hstem, -, hlines⟩ := textStem_replicate defaultExcludedMarker ownSource 2
  obtain ⟨-, hcut, -⟩ := textStem_replicate defaultExcludedMarker dependency 2
  have hclear : Text.Clear defaultExcludedMarker "/p/".toList := by
    rw [Text.Clear]
    decide
  constructor
  · refine (hlines (framesOf ownSource) _ rfl (by decide)).2 (Or.inl (hstem.2 ?_))
    exact Or.inr (Or.inl (Or.inr (by decide)))
  · exact hcut "/p/".toList "/x.js".toList le_rfl (by decide) rfl hclear

/-- The only source of a trace is cut if it is that of a dependency. -/
theorem not_whole_dependency :
    textStem defaultExcludedMarker (List.replicate 2 dependency) ≠ [] ∧
      Layout.lines {} (framesOf dependency) =
        .ok ["  at ./s/x.js:1:0".toList, "  at ./s/x.js:2:4".toList] := by
  constructor
  · decide
  · decide

end Retrace.Trace
