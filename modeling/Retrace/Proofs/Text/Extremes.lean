import Mathlib
import Retrace.Proofs.Text.Leads

/-!
# The least and the greatest of some texts

Texts are ordered by their characters, the first that differs deciding.  What the least and the
greatest of some texts share, every text between them starts with; so `Text.sharedLead` can be had
from these two alone (`commonLead_of_extremes`).
-/

namespace Retrace.Text

/-- Texts are ordered by their first characters, and by what follows if these are the same. -/
lemma cons_le_cons_iff {a b : Char} {s t : Text} : a :: s ≤ b :: t ↔ a < b ∨ a = b ∧ s ≤ t := by
  rw [← not_lt, ← not_lt, List.cons_lt_cons_iff, not_or, not_and, not_lt, le_iff_lt_or_eq]
  constructor
  · rintro ⟨hlt | rfl, hrest⟩
    · exact Or.inl hlt
    · exact Or.inr ⟨rfl, hrest rfl⟩
  · rintro (hlt | ⟨rfl, hrest⟩)
    · exact ⟨Or.inl hlt, fun h => absurd h hlt.ne'⟩
    · exact ⟨Or.inr rfl, fun _ => hrest⟩

/-- A text between two others that start alike starts as they do, and goes on between them. -/
lemma exists_of_between {c : Char} {s t u : Text} (hs : c :: s ≤ t) (hu : t ≤ c :: u) :
    ∃ rest, t = c :: rest ∧ s ≤ rest ∧ rest ≤ u := by
  cases t with
  | nil => exact absurd hs (not_le.2 (List.nil_lt_cons c s))
  | cons d rest =>
    -- `d` is between `c` and `c`, so it is `c`.
    rcases cons_le_cons_iff.1 hs with hcd | ⟨rfl, hbelow⟩
    · rcases cons_le_cons_iff.1 hu with hdc | ⟨rfl, -⟩
      · exact absurd hdc hcd.not_gt
      · exact absurd hcd (lt_irrefl _)
    · rcases cons_le_cons_iff.1 hu with hcc | ⟨-, habove⟩
      · exact absurd hcc (lt_irrefl _)
      · exact ⟨rest, rfl, hbelow, habove⟩

/-- A text between two others starts with what they share. -/
lemma commonLead_prefix_of_between {s t u : Text} (hs : s ≤ t) (hu : t ≤ u) :
    commonLead s u <+: t := by
  induction s generalizing t u with
  | nil => simp [commonLead]
  | cons a s ih =>
    cases u with
    | nil => simp [commonLead]
    | cons c u =>
      by_cases hac : a = c
      · subst hac
        obtain ⟨rest, rfl, hs, hu⟩ := exists_of_between hs hu
        rw [commonLead, if_pos rfl, List.cons_prefix_cons]
        exact ⟨rfl, ih hs hu⟩
      · rw [commonLead, if_neg hac]
        exact List.nil_prefix

/-- The least and the greatest of some texts share what all of them share. -/
theorem commonLead_of_extremes {texts : List Text} {least greatest : Text}
    (hleast : IsLeast {t | t ∈ texts} least) (hgreatest : IsGreatest {t | t ∈ texts} greatest) :
    commonLead least greatest = sharedLead texts := by
  have hne : texts ≠ [] := List.ne_nil_of_mem hleast.1
  have hall := (prefix_sharedLead_iff hne).1 (List.prefix_refl (sharedLead texts))
  have hboth : sharedLead texts <+: commonLead least greatest :=
    prefix_commonLead_iff.2 ⟨hall least hleast.1, hall greatest hgreatest.1⟩
  have hbetween : commonLead least greatest <+: sharedLead texts :=
    (prefix_sharedLead_iff hne).2 fun t ht =>
      commonLead_prefix_of_between (hleast.2 ht) (hgreatest.2 ht)
  exact hbetween.eq_of_length_le hboth.length_le

lemma exists_extremes {texts : List Text} (hne : texts ≠ []) :
    (∃ least, IsLeast {t | t ∈ texts} least) ∧ ∃ greatest, IsGreatest {t | t ∈ texts} greatest := by
  have hnonempty : texts.toFinset.Nonempty := (List.toFinset_nonempty_iff texts).2 hne
  have hset : ({t | t ∈ texts} : Set Text) = texts.toFinset := by
    ext t
    simp
  rw [hset]
  exact ⟨⟨_, texts.toFinset.isLeast_min' hnonempty⟩, ⟨_, texts.toFinset.isGreatest_max' hnonempty⟩⟩

end Retrace.Text
