import Mathlib.Data.List.Pairwise
import Mathlib.Tactic
import Retrace.SourceMap.Indexed

/-!
# Sections in order

Sections are put in the order of their starts whatever the order they are listed in
(`sort_eq_of_perm`), and a position belongs to the last of them that starts by it
(`sectionAt?_cons_of_later`, `sectionAt?_cons_of_last`).
-/

namespace Retrace.SourceMap

namespace Section

/-- A section starts before another. -/
def Before (s u : Section) : Prop := s.line < u.line ∨ s.line = u.line ∧ s.column < u.column

lemma startsBy_iff {s : Section} {line column : Int} :
    s.startsBy line column = true ↔ s.line < line ∨ s.line = line ∧ s.column ≤ column := by
  simp [startsBy]

lemma Before.startsBy {s u : Section} (h : s.Before u) : s.startsBy u.line u.column = true := by
  rw [startsBy_iff]
  unfold Before at h
  omega

/-! ## Sorting -/

/-- Sections that start no later than those after them. -/
def Sorted (sections : List Section) : Prop :=
  sections.Pairwise fun s u => s.startsBy u.line u.column = true

lemma startsBy_trans (s u v : Section) (hsu : s.startsBy u.line u.column = true)
    (huv : u.startsBy v.line v.column = true) : s.startsBy v.line v.column = true := by
  rw [startsBy_iff] at hsu huv ⊢
  omega

lemma startsBy_total (s u : Section) :
    (s.startsBy u.line u.column || u.startsBy s.line s.column) = true := by
  rw [Bool.or_eq_true, startsBy_iff, startsBy_iff]
  omega

lemma sort_perm (listed : List Section) : (sort listed).Perm listed :=
  List.mergeSort_perm listed _

lemma sorted_sort (listed : List Section) : Sorted (sort listed) :=
  List.pairwise_mergeSort startsBy_trans startsBy_total listed

/-- Whether a section starts where another does. -/
def startsWith (s u : Section) : Bool := u.line = s.line && u.column = s.column

lemma startsWith_iff {s u : Section} :
    s.startsWith u = true ↔ u.line = s.line ∧ u.column = s.column := by
  simp [startsWith]

/-- Sections of one start keep their order. -/
lemma filter_startsWith_sort (s : Section) (listed : List Section) :
    (sort listed).filter s.startsWith = listed.filter s.startsWith := by
  have hsorted : Sorted (listed.filter s.startsWith) := by
    refine List.pairwise_of_forall_mem_list fun u hu v hv => ?_
    have hus := startsWith_iff.1 (List.mem_filter.1 hu).2
    have hvs := startsWith_iff.1 (List.mem_filter.1 hv).2
    rw [startsBy_iff]
    omega
  have hsub : (listed.filter s.startsWith).Sublist (sort listed) :=
    List.sublist_mergeSort startsBy_trans startsBy_total hsorted List.filter_sublist
  have hkept := hsub.filter s.startsWith
  simp only [List.filter_filter, Bool.and_self] at hkept
  exact (hkept.eq_of_length ((sort_perm listed).filter s.startsWith).length_eq.symm).symm

/-- **Any arrangement.** Sections whose starts differ are put in the order of their starts,
whatever the order they are listed in. -/
theorem sort_eq_of_perm {sections listed : List Section} (h : sections.Pairwise Before)
    (hperm : listed.Perm sections) : sort listed = sections := by
  have hsort : (sort listed).Perm sections := (sort_perm listed).trans hperm
  have hsorted : Sorted sections := h.imp Before.startsBy
  refine hsort.eq_of_pairwise ?_ (sorted_sort listed) hsorted
  intro s u hs hu hsu hus
  by_contra hne
  have hdiffer : sections.Pairwise fun s u => s.Before u ∨ u.Before s := h.imp Or.inl
  have : Std.Symm fun s u : Section => s.Before u ∨ u.Before s := ⟨fun _ _ => Or.symm⟩
  have hbefore := hdiffer.forall (hsort.mem_iff.1 hs) hu hne
  rw [startsBy_iff] at hsu hus
  unfold Before at hbefore
  omega

end Section

/-! ## The section of a position -/

lemma sectionAt?_cons (s : Section) (sections : List Section) (line column : Int) :
    sectionAt? (s :: sections) line column =
      if s.startsBy line column then (sectionAt? sections line column).or (some s) else none := by
  rw [sectionAt?, sectionAt?, List.takeWhile_cons]
  split
  · rw [List.getLast?_cons]
    cases (sections.takeWhile (·.startsBy line column)).getLast? <;> rfl
  · rfl

lemma sectionAt?_cons_of_later {s next : Section} {sections : List Section} {line column : Int}
    (hs : s.startsBy line column = true) (hnext : next.startsBy line column = true) :
    sectionAt? (s :: next :: sections) line column = sectionAt? (next :: sections) line column := by
  rw [sectionAt?_cons, if_pos hs, sectionAt?_cons, if_pos hnext]
  cases sectionAt? sections line column <;> rfl

lemma sectionAt?_cons_of_last {s : Section} {sections : List Section} {line column : Int}
    (hs : s.startsBy line column = true)
    (hlast : ∀ next ∈ sections.head?, ¬ next.startsBy line column = true) :
    sectionAt? (s :: sections) line column = some s := by
  have hrest : sectionAt? sections line column = none := by
    cases sections with
    | nil => rfl
    | cons next sections => rw [sectionAt?_cons, if_neg (hlast next rfl)]
  rw [sectionAt?_cons, if_pos hs, hrest, Option.none_or]

end Retrace.SourceMap
