import Retrace.Proofs.Text.Cutting

/-!
# Leads

`Text.sharedLead` is what some texts share at their start, and `Text.leadClearOf` is as much of a
text as can be had without a marker.  Both are described by their leads: a text is a lead of the
first exactly if all the texts start with it (`prefix_sharedLead_iff`), and of the second exactly if
the text starts with it and the marker does not come up in it (`prefix_leadClearOf_iff`).  So both
are the longest texts of their kind.
-/

namespace Retrace.Text

/-! ## Shared leads -/

lemma prefix_commonLead_iff {lead s t : Text} :
    lead <+: commonLead s t ↔ lead <+: s ∧ lead <+: t := by
  induction s generalizing lead t with
  | nil => simp +contextual [commonLead]
  | cons a s ih =>
    cases t with
    | nil => simp +contextual [commonLead]
    | cons b t =>
      cases lead with
      | nil => simp
      | cons c lead =>
        rw [commonLead, List.cons_prefix_cons, List.cons_prefix_cons]
        by_cases hab : a = b
        · subst hab
          rw [if_pos rfl, List.cons_prefix_cons, ih]
          tauto
        · rw [if_neg hab]
          refine iff_of_false (by simp) ?_
          rintro ⟨⟨rfl, -⟩, rfl, -⟩
          exact hab rfl

lemma prefix_foldl_commonLead_iff {lead t : Text} {texts : List Text} :
    lead <+: texts.foldl commonLead t ↔ lead <+: t ∧ ∀ s ∈ texts, lead <+: s := by
  induction texts generalizing t with
  | nil => simp
  | cons s texts ih =>
    rw [List.foldl_cons, ih, prefix_commonLead_iff, List.forall_mem_cons, and_assoc]

/-- The leads that texts share are those of their shared lead. -/
theorem prefix_sharedLead_iff {lead : Text} {texts : List Text} (hne : texts ≠ []) :
    lead <+: sharedLead texts ↔ ∀ t ∈ texts, lead <+: t := by
  obtain ⟨t, texts, rfl⟩ := List.exists_cons_of_ne_nil hne
  rw [sharedLead, prefix_foldl_commonLead_iff, List.forall_mem_cons]

/-! ## Leads clear of a marker -/

lemma leadClearOf_of_absent {marker t : Text} (h : ¬ marker <:+: t) :
    leadClearOf marker t = t := by
  have hnone : firstIndex? marker t = none := by
    rw [← occursIn_eq_false_iff, occursIn] at h
    simpa using h
  rw [leadClearOf, hnone]

lemma firstIndex?_append {marker piece : Text} (hne : marker ≠ []) (h : Clear marker piece)
    (rest : Text) : firstIndex? marker (piece ++ marker ++ rest) = some piece.length := by
  induction piece with
  | nil =>
    obtain ⟨c, marker, rfl⟩ := List.exists_cons_of_ne_nil hne
    have hstart : startsWith (c :: marker) (c :: (marker ++ rest)) = true :=
      startsWith_iff.2 ⟨rest, rfl⟩
    rw [List.nil_append, List.cons_append, firstIndex?, if_pos hstart]
    rfl
  | cons c piece ih =>
    have hstart : startsWith marker (c :: (piece ++ marker ++ rest)) = false :=
      h.not_startsWith rest
    rw [List.cons_append, List.cons_append, firstIndex?, hstart, ih h.tail]
    rfl

/-- A text is cut one character short of the end of the leftmost marker. -/
lemma leadClearOf_append {marker piece : Text} (hne : marker ≠ []) (h : Clear marker piece)
    (rest : Text) : leadClearOf marker (piece ++ marker ++ rest) = piece ++ marker.dropLast := by
  have hpos := List.length_pos_iff.2 hne
  have hlength : piece.length + marker.length - 1 = piece.length + (marker.length - 1) := by omega
  rw [leadClearOf, firstIndex?_append hne h]
  simp only [hlength, List.append_assoc, List.take_length_add_append]
  rw [List.take_append_of_le_length (by omega), List.dropLast_eq_take]

/-- Nothing is left of a text with a marker only if the marker is its first character. -/
lemma leadClearOf_eq_nil_iff {marker t : Text} (hne : marker ≠ []) (hin : marker <:+: t) :
    leadClearOf marker t = [] ↔ ∃ c rest, marker = [c] ∧ t = c :: rest := by
  constructor
  · obtain ⟨piece, rest, rfl, hclear⟩ := exists_leftmost hne hin
    rw [leadClearOf_append hne hclear, List.append_eq_nil_iff]
    rintro ⟨rfl, hdrop⟩
    obtain ⟨c, marker, rfl⟩ := List.exists_cons_of_ne_nil hne
    cases marker with
    | nil => exact ⟨c, rest, rfl, rfl⟩
    | cons d marker => cases hdrop
  · rintro ⟨c, rest, rfl, rfl⟩
    simp [leadClearOf, firstIndex?, startsWith, dropLead?]

/-- The leads of a text in which a marker does not come up are those of its longest one. -/
theorem prefix_leadClearOf_iff {marker : Text} (hne : marker ≠ []) {lead t : Text} :
    lead <+: leadClearOf marker t ↔ lead <+: t ∧ ¬ marker <:+: lead := by
  by_cases hin : marker <:+: t
  · obtain ⟨piece, rest, rfl, hclear⟩ := exists_leftmost hne hin
    have hcut := isPrefix_append_dropLast marker piece rest
    rw [leadClearOf_append hne hclear]
    constructor
    · intro hlead
      exact ⟨hlead.trans hcut, fun hmarker => hclear (hmarker.trans hlead.isInfix)⟩
    · rintro ⟨hlead, hfree⟩
      refine List.prefix_of_prefix_length_le hlead hcut ?_
      by_contra hlonger
      have hpos := List.length_pos_iff.2 hne
      simp only [List.length_append, List.length_dropLast] at hlonger
      -- A longer lead goes on beyond the marker.
      have hbeyond : piece ++ marker <+: lead := by
        refine List.prefix_of_prefix_length_le (List.prefix_append _ rest) hlead ?_
        rw [List.length_append]
        omega
      exact hfree ((List.suffix_append piece marker).isInfix.trans hbeyond.isInfix)
  · rw [leadClearOf_of_absent hin]
    refine ⟨fun hlead => ⟨hlead, fun hmarker => hin (hmarker.trans hlead.isInfix)⟩, And.left⟩

end Retrace.Text
