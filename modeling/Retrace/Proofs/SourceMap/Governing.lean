import Retrace.Proofs.SourceMap.Delegation

/-!
# The section that governs a position

`Governs` says in terms of the sections as they are listed which of them a position belongs to: of
those that start by the position one that starts last, and of several such the one listed last.
There is at most one (`Governs.unique`).

The sections of an index map are put in order when the map is read, and searched by halving when it
is asked.  `delegate?_sort` says that this comes to the same, for sections listed in any order, with
starts of any sign and at one place.  Of the sections that start where the one of the position does,
it is the last in order, and they are listed in the same order, since sorting is stable
(`Section.filter_startsWith_sort`).
-/

namespace Retrace.SourceMap

variable {sections listed : List Section} {line column : Int}

/-! ## The last section that starts by a position -/

lemma sectionAt?_sort_eq_none_iff :
    sectionAt? (Section.sort listed) line column = none ↔
      ∀ s ∈ listed, ¬ s.startsBy line column = true := by
  have hmem (s : Section) : s ∈ Section.sort listed ↔ s ∈ listed :=
    (Section.sort_perm listed).mem_iff
  simp only [← hmem]
  have hsorted := Section.sorted_sort listed
  cases hsort : Section.sort listed with
  | nil => simp [sectionAt?]
  | cons s sections =>
    rw [hsort] at hsorted
    rw [sectionAt?_cons]
    by_cases hs : s.startsBy line column = true
    · rw [if_pos hs]
      refine iff_of_false ?_ fun hall => hall s List.mem_cons_self hs
      cases sectionAt? sections line column <;> simp
    · rw [if_neg hs]
      exact iff_of_true rfl (hsorted.not_startsBy hs)

/-! ## The section of a position -/

/-- A section governs a position among the sections listed: it starts by the position, and every
section that does starts before it, or at the same place and is not listed later. -/
structure Governs (listed : List Section) (line column : Int) (index : Nat) (s : Section) :
    Prop where
  getElem? : listed[index]? = some s
  startsBy : s.startsBy line column = true
  last : ∀ other u, listed[other]? = some u → u.startsBy line column = true →
    u.Before s ∨ u.line = s.line ∧ u.column = s.column ∧ other ≤ index

lemma Governs.unique {i j : Nat} {s u : Section} (hs : Governs listed line column i s)
    (hu : Governs listed line column j u) : i = j ∧ s = u := by
  have hsu := hs.last j u hu.getElem? hu.startsBy
  have hus := hu.last i s hs.getElem? hs.startsBy
  unfold Section.Before at hsu hus
  have hindex : i = j := by omega
  subst hindex
  exact ⟨rfl, Option.some.inj (hs.getElem?.symm.trans hu.getElem?)⟩

/-- The sections in order are cut behind the one of a position: up to it all start by the position,
and none behind it does. -/
lemma exists_eq_append_of_sectionAt? {s : Section} (hsorted : Section.Sorted sections)
    (h : sectionAt? sections line column = some s) :
    ∃ before after, sections = before ++ s :: after ∧ s.startsBy line column = true ∧
      ∀ u ∈ after, ¬ u.startsBy line column = true := by
  obtain ⟨before, hbefore⟩ := List.getLast?_eq_some_iff.1 h
  have hsplit : sections.takeWhile (·.startsBy line column) ++
      sections.dropWhile (·.startsBy line column) = sections := List.takeWhile_append_dropWhile
  rw [hbefore, List.append_assoc, List.singleton_append] at hsplit
  have hmem : s ∈ sections.takeWhile (·.startsBy line column) := by rw [hbefore]; simp
  have hs : s.startsBy line column = true := by simpa using List.mem_takeWhile_imp hmem
  refine ⟨before, _, hsplit.symm, hs, fun u hu => ?_⟩
  cases hafter : sections.dropWhile (·.startsBy line column) with
  | nil => simp [hafter] at hu
  | cons first later =>
    have hfirst : ¬ first.startsBy line column = true := by
      have := List.head?_dropWhile_not (·.startsBy line column) sections
      rw [hafter] at this
      simpa using this
    rw [hafter] at hu
    refine Section.Sorted.not_startsBy ?_ hfirst u hu
    rw [← hafter]
    exact hsorted.sublist (List.dropWhile_sublist _)

/-- Of the sections that start by a position, none starts later than the section of the position. -/
lemma startsBy_of_sectionAt? {s u : Section} (hsorted : Section.Sorted sections)
    (h : sectionAt? sections line column = some s) (hmem : u ∈ sections)
    (hu : u.startsBy line column = true) : u.startsBy s.line s.column = true := by
  obtain ⟨before, after, rfl, -, hafter⟩ := exists_eq_append_of_sectionAt? hsorted h
  rw [List.mem_append, List.mem_cons] at hmem
  rcases hmem with hmem | rfl | hmem
  · exact (List.pairwise_append.1 hsorted).2.2 u hmem s List.mem_cons_self
  · rw [Section.startsBy_iff]
    omega
  · exact absurd hu (hafter u hmem)

/-- Of the sections listed that start where the one of a position does, that one is the last, since
they keep their order. -/
lemma exists_eq_append_of_sectionAt?_sort {s : Section}
    (h : sectionAt? (Section.sort listed) line column = some s) :
    ∃ before after, listed = before ++ s :: after ∧
      ∀ u ∈ after, ¬ (u.line = s.line ∧ u.column = s.column) := by
  obtain ⟨front, back, hsort, hstarts, hback⟩ :=
    exists_eq_append_of_sectionAt? (Section.sorted_sort listed) h
  have hnone : back.filter s.startsWith = [] := by
    refine List.filter_eq_nil_iff.2 fun u hu hplace => hback u hu ?_
    rw [Section.startsWith_iff] at hplace
    rw [Section.startsBy_iff] at hstarts ⊢
    omega
  have hself : s.startsWith s = true := Section.startsWith_iff.2 ⟨rfl, rfl⟩
  have hlast : listed.filter s.startsWith = front.filter s.startsWith ++ [s] := by
    rw [← Section.filter_startsWith_sort, hsort, List.filter_append, List.filter_cons_of_pos hself,
      hnone]
  obtain ⟨before, rest, hlisted, -, hrest⟩ := List.filter_eq_append_iff.1 hlast
  obtain ⟨between, after, rfl, -, -, hafter⟩ := List.filter_eq_cons_iff.1 hrest
  refine ⟨before ++ between, after, by rw [hlisted, List.append_assoc], fun u hu hplace => ?_⟩
  exact List.filter_eq_nil_iff.1 hafter u hu (Section.startsWith_iff.2 hplace)

/-- The section of a position among the sections in order governs it as they are listed. -/
lemma exists_governs_of_sectionAt? {s : Section}
    (h : sectionAt? (Section.sort listed) line column = some s) :
    ∃ index, Governs listed line column index s := by
  have hsorted := Section.sorted_sort listed
  obtain ⟨-, -, -, hstarts, -⟩ := exists_eq_append_of_sectionAt? hsorted h
  obtain ⟨before, after, rfl, hafter⟩ := exists_eq_append_of_sectionAt?_sort h
  refine ⟨before.length, by simp, hstarts, fun other u hu hby => ?_⟩
  have hmem := (Section.sort_perm _).mem_iff.2 (List.mem_of_getElem? hu)
  have hus := startsBy_of_sectionAt? hsorted h hmem hby
  rw [Section.startsBy_iff] at hus
  by_cases hplace : u.line = s.line ∧ u.column = s.column
  · refine Or.inr ⟨hplace.1, hplace.2, ?_⟩
    by_contra hlater
    obtain ⟨k, rfl⟩ := Nat.exists_eq_add_of_lt (Nat.lt_of_not_le hlater)
    rw [List.getElem?_append_right (by omega), Nat.add_assoc, Nat.add_sub_cancel_left,
      List.getElem?_cons_succ] at hu
    exact hafter u (List.mem_of_getElem? hu) hplace
  · unfold Section.Before
    omega

lemma sectionAt?_sort_eq_some_iff {s : Section} :
    sectionAt? (Section.sort listed) line column = some s ↔
      ∃ index, Governs listed line column index s := by
  refine ⟨exists_governs_of_sectionAt?, ?_⟩
  rintro ⟨index, hs⟩
  cases hat : sectionAt? (Section.sort listed) line column with
  | none =>
    have hmem := List.mem_of_getElem? hs.getElem?
    exact absurd hs.startsBy (sectionAt?_sort_eq_none_iff.1 hat s hmem)
  | some b =>
    obtain ⟨other, hb⟩ := exists_governs_of_sectionAt? hat
    rw [(hb.unique hs).2]

/-! ## The order of the list -/

/-- No two sections start at one place. -/
def Apart (listed : List Section) : Prop :=
  listed.Pairwise fun s u => ¬ (s.line = u.line ∧ s.column = u.column)

lemma Apart.pairwise_sort (h : Apart listed) : (Section.sort listed).Pairwise Section.Before := by
  have hsymm {s u : Section} (hsu : ¬ (s.line = u.line ∧ s.column = u.column)) :
      ¬ (u.line = s.line ∧ u.column = s.column) := by omega
  have hapart : Apart (Section.sort listed) := ((Section.sort_perm listed).pairwise_iff hsymm).2 h
  refine (List.Pairwise.and (Section.sorted_sort listed) hapart).imp ?_
  rintro s u ⟨hby, hdiffer⟩
  rw [Section.startsBy_iff] at hby
  unfold Section.Before
  omega

/-- Sections that start at places of their own are put in one order, however they are listed. -/
lemma Apart.sort_eq (h : Apart listed) {other : List Section} (hperm : other.Perm listed) :
    Section.sort other = Section.sort listed :=
  Section.sort_eq_of_perm h.pairwise_sort (hperm.trans (Section.sort_perm listed).symm)

/-! ## Index maps -/

/-- **The plain rule.** Sections that are read in any order are asked for a position as follows.
The one that governs the position as they are listed is asked, for the position relative to its
start: the line always, the column on its first line only.  No section is asked if none starts by
the position.  If no two start at one place, the order in which they are listed does not matter. -/
theorem delegate?_sort (listed : List Section) :
    (∀ items : List Json, List.Forall₂ (fun v s => readSection v = .ok s) items listed →
      readSections (.list items) = .ok (Section.sort listed)) ∧
    (∀ (line column : Int) (q : Query),
      (SourceMap.indexed (Section.sort listed)).delegate? line column = some q ↔
        ∃ index s, Governs listed line column index s ∧
          q = ⟨s.table, line - s.line, if line = s.line then column - s.column else column⟩) ∧
    (∀ line column : Int,
      (SourceMap.indexed (Section.sort listed)).delegate? line column = none ↔
        ∀ s ∈ listed, ¬ s.startsBy line column = true) ∧
    (∀ line column : Nat, (SourceMap.indexed (Section.sort listed)).lookup? line column =
      ((SourceMap.indexed (Section.sort listed)).delegate? line column).bind fun q =>
        q.table.lookup? q.line.toNat q.column.toNat) ∧
    (Apart listed → ∀ other : List Section, other.Perm listed → ∀ line column : Int,
      (SourceMap.indexed (Section.sort other)).delegate? line column =
        (SourceMap.indexed (Section.sort listed)).delegate? line column) := by
  have hsorted := Section.sorted_sort listed
  refine ⟨fun items hitems => ?_, fun line column q => ?_, fun line column => ?_,
    hsorted.lookup?_eq_delegate?, fun hapart other hperm line column => ?_⟩
  · rw [readSections, members?]
    dsimp only
    rw [mapM_eq_ok hitems]
    rfl
  · rw [hsorted.delegate?_eq, Option.map_eq_some_iff]
    constructor
    · rintro ⟨s, hat, rfl⟩
      obtain ⟨index, hs⟩ := sectionAt?_sort_eq_some_iff.1 hat
      exact ⟨index, s, hs, rfl⟩
    · rintro ⟨index, s, hs, rfl⟩
      exact ⟨s, sectionAt?_sort_eq_some_iff.2 ⟨index, hs⟩, rfl⟩
  · rw [hsorted.delegate?_eq, Option.map_eq_none_iff, sectionAt?_sort_eq_none_iff]
  · rw [hapart.sort_eq hperm]

/-! ### Two sections at one place -/

/-- A section of an index map whose own map has one token, after some empty lines. -/
def tokenSection (line column : Int) (source : Text) (lines : Nat) : Json :=
  .object [
    ("offset".toList, .object [("line".toList, .int line), ("column".toList, .int column)]),
    ("map".toList, .object [
      ("sources".toList, .list [.text source]), ("names".toList, .list []),
      ("mappings".toList, .text (List.replicate lines ';' ++ "AAAA".toList))])]

/-- Two sections that start at one place, on both sides of one that starts before all code. -/
def tied : List Section :=
  [⟨1, 2, tableOfStart 0 "a.js".toList⟩, ⟨-1, -3, tableOfStart 1 "b.js".toList⟩,
    ⟨1, 2, tableOfStart 0 "c.js".toList⟩]

lemma governs_tied : Governs tied 1 7 2 ⟨1, 2, tableOfStart 0 "c.js".toList⟩ where
  getElem? := rfl
  startsBy := rfl
  last := by
    intro other u hu _
    match other, hu with
    | 0, hu =>
      obtain rfl := Option.some.inj hu
      exact Or.inr ⟨rfl, rfl, by decide⟩
    | 1, hu =>
      obtain rfl := Option.some.inj hu
      exact Or.inl (Or.inl (by decide))
    | 2, hu =>
      obtain rfl := Option.some.inj hu
      exact Or.inr ⟨rfl, rfl, le_rfl⟩

theorem delegate?_sort_tied :
    readSections (.list [tokenSection 1 2 "a.js".toList 0, tokenSection (-1) (-3) "b.js".toList 1,
        tokenSection 1 2 "c.js".toList 0]) = .ok (Section.sort tied) ∧
      (SourceMap.indexed (Section.sort tied)).delegate? 1 7 =
        some ⟨tableOfStart 0 "c.js".toList, 0, 5⟩ ∧
      (SourceMap.indexed (Section.sort tied)).delegate? (-1) (-4) = none ∧
      Apart tied.tail ∧
      (SourceMap.indexed (Section.sort tied.tail.reverse)).delegate? 1 1 =
        (SourceMap.indexed (Section.sort tied.tail)).delegate? 1 1 := by
  obtain ⟨hread, hsome, hnone, -, -⟩ := delegate?_sort tied
  obtain ⟨-, -, -, -, horder⟩ := delegate?_sort tied.tail
  have hapart : Apart tied.tail := by simp [Apart, tied]
  refine ⟨hread _ ?_, (hsome 1 7 _).2 ⟨2, _, governs_tied, rfl⟩, (hnone (-1) (-4)).2 ?_, hapart,
    horder hapart _ (List.reverse_perm _) 1 1⟩
  · exact .cons rfl (.cons rfl (.cons rfl .nil))
  · simp [tied, Section.startsBy]

end Retrace.SourceMap
