import Retrace.Proofs.Text.Extremes
import Retrace.Proofs.Trace.Stem

/-!
# The stem is the longest there can be

A lead that all sources share and that the excluded text admits may be longer than another one, and
one is the longest of all (`IsLongest`).  The stem of a trace is this lead, unless it is the first
source (`textStem_longest`).

It can be had with less than all sources and without a search: the least and the greatest source
share what all of them share, and as long as the excluded text comes up in a lead, its last
character can go (`CutsBack`).  No admitted lead is lost in such a round (`prefix_dropLast_iff`), so
however often the excluded text comes up, and also where it overlaps itself, the rounds end with
the longest admitted lead (`cutsBack_iff`).
-/

namespace Retrace.Trace

variable {excluded : Text} {sources : List Text}

/-! ## The longest lead -/

/-- A lead that all sources share and the excluded text admits, where no other such is longer. -/
structure IsLongest (excluded : Text) (sources : List Text) (lead : Text) : Prop where
  shared : ∀ s ∈ sources, lead <+: s
  admitted : Admits excluded lead
  length_le : ∀ other, (∀ s ∈ sources, other <+: s) → Admits excluded other →
    other.length ≤ lead.length

lemma isLongest_iff (hne : sources ≠ []) {lead : Text} :
    IsLongest excluded sources lead ↔ lead = sharedStem excluded sources := by
  constructor
  · intro hlongest
    have hlead : lead <+: sharedStem excluded sources :=
      (prefix_sharedStem_iff hne).2 ⟨hlongest.shared, hlongest.admitted⟩
    have hall : ∀ s ∈ sources, sharedStem excluded sources <+: s := fun s => isPrefix_sharedStem
    exact hlead.eq_of_length_le (hlongest.length_le _ hall (admits_sharedStem hne))
  · rintro rfl
    refine ⟨fun s => isPrefix_sharedStem, admits_sharedStem hne, ?_⟩
    intro other hshared hadmitted
    exact ((prefix_sharedStem_iff hne).2 ⟨hshared, hadmitted⟩).length_le

/-! ## Cutting a lead back -/

instance (excluded t : Text) : Decidable (Admits excluded t) :=
  inferInstanceAs (Decidable (_ ∨ _))

lemma Admits.of_prefix {lead t : Text} (h : Admits excluded t) (hlead : lead <+: t) :
    Admits excluded lead :=
  h.imp_right fun hout hin => hout (hin.trans hlead.isInfix)

lemma admits_nil (excluded : Text) : Admits excluded [] :=
  or_iff_not_imp_left.2 fun hne hin => hne (List.infix_nil.1 hin)

/-- How a lead is cut back: as long as the excluded text comes up in it, its last character goes. -/
inductive CutsBack (excluded : Text) : Text → Text → Prop
  | stop {t : Text} (h : Admits excluded t) : CutsBack excluded t t
  | round {t lead : Text} (h : ¬ Admits excluded t) (rest : CutsBack excluded t.dropLast lead) :
      CutsBack excluded t lead

/-- A round loses no lead that is admitted. -/
lemma prefix_dropLast_iff {lead t : Text} (h : ¬ Admits excluded t) :
    (lead <+: t.dropLast ∧ Admits excluded lead) ↔ lead <+: t ∧ Admits excluded lead := by
  constructor
  · rintro ⟨hlead, hadmitted⟩
    exact ⟨hlead.trans (List.dropLast_prefix t), hadmitted⟩
  · rintro ⟨⟨rest, rfl⟩, hadmitted⟩
    have hrest : rest ≠ [] := by
      rintro rfl
      exact h (by rwa [List.append_nil])
    rw [List.dropLast_append_of_ne_nil hrest]
    exact ⟨List.prefix_append lead _, hadmitted⟩

/-- The rounds keep the leads that are admitted, and only these. -/
lemma CutsBack.prefix_iff {t last : Text} (h : CutsBack excluded t last) {lead : Text} :
    lead <+: last ↔ lead <+: t ∧ Admits excluded lead := by
  induction h with
  | stop hadmitted => exact ⟨fun hlead => ⟨hlead, hadmitted.of_prefix hlead⟩, And.left⟩
  | round hout _ ih => rw [ih, prefix_dropLast_iff hout]

/-- The rounds come to an end, whatever the lead. -/
lemma exists_cutsBack (excluded t : Text) : ∃ lead, CutsBack excluded t lead := by
  induction t using List.reverseRecOn with
  | nil => exact ⟨[], .stop (admits_nil excluded)⟩
  | append_singleton t c ih =>
    by_cases hadmitted : Admits excluded (t ++ [c])
    · exact ⟨t ++ [c], .stop hadmitted⟩
    · obtain ⟨lead, hlead⟩ := ih
      refine ⟨lead, .round hadmitted ?_⟩
      rwa [List.dropLast_concat]

/-- What sources share is cut back to the longest lead that is admitted, and to no other. -/
lemma cutsBack_iff (hne : sources ≠ []) {lead : Text} :
    CutsBack excluded (Text.sharedLead sources) lead ↔ IsLongest excluded sources lead := by
  have hlast {last : Text} (h : CutsBack excluded (Text.sharedLead sources) last) :
      last = sharedStem excluded sources := by
    have hleads {other : Text} : other <+: last ↔ other <+: sharedStem excluded sources := by
      rw [h.prefix_iff, Text.prefix_sharedLead_iff hne, prefix_sharedStem_iff hne]
    have hstem : sharedStem excluded sources <+: last := hleads.2 List.prefix_rfl
    exact (hleads.1 List.prefix_rfl).eq_of_length_le hstem.length_le
  rw [isLongest_iff hne]
  refine ⟨hlast, ?_⟩
  rintro rfl
  obtain ⟨last, h⟩ := exists_cutsBack excluded (Text.sharedLead sources)
  rwa [← hlast h]

/-! ## The stem -/

/-- The stem of several sources is what they share, cut back, unless that is the first of them. -/
lemma textStem_eq_ite (excluded : Text) (hlength : 2 ≤ sources.length) :
    textStem excluded sources =
      if sources.head? = some (sharedStem excluded sources) then []
      else sharedStem excluded sources := by
  match sources with
  | [] | [_] => simp at hlength
  | first :: second :: rest =>
    rw [textStem_cons_cons, List.head?_cons]
    exact if_congr (by rw [Option.some.injEq, eq_comm]) rfl rfl

lemma admits_textStem (excluded : Text) (sources : List Text) :
    Admits excluded (textStem excluded sources) := by
  by_cases h : textStem excluded sources = []
  · rw [h]
    exact admits_nil excluded
  · rw [(textStem_of_ne_nil h).1]
    refine admits_sharedStem ?_
    rintro rfl
    exact h rfl

/-- **The longest stem.** Among the leads that several sources share and the excluded text admits
there is one that is longest; the stem is this lead, or empty if it is the first source.  What the
least and the greatest of the sources share is cut back to it, and to no other.  So the stem holds
no excluded text, and all sources start with it. -/
theorem textStem_longest (excluded : Text) (hlength : 2 ≤ sources.length) :
    (∃! lead, IsLongest excluded sources lead) ∧
    (∀ lead, IsLongest excluded sources lead →
      textStem excluded sources = if sources.head? = some lead then [] else lead) ∧
    ((∃ least, IsLeast {s | s ∈ sources} least) ∧
      ∃ greatest, IsGreatest {s | s ∈ sources} greatest) ∧
    (∀ least greatest, IsLeast {s | s ∈ sources} least → IsGreatest {s | s ∈ sources} greatest →
      ∀ lead, CutsBack excluded (Text.commonLead least greatest) lead ↔
        IsLongest excluded sources lead) ∧
    (excluded ≠ [] → ¬ excluded <:+: textStem excluded sources) ∧
    ∀ s ∈ sources, textStem excluded sources <+: s := by
  have hne : sources ≠ [] := List.ne_nil_of_length_pos (by omega)
  refine ⟨?_, ?_, Text.exists_extremes hne, ?_, ?_, fun s => isPrefix_textStem⟩
  · exact ⟨_, (isLongest_iff hne).2 rfl, fun lead => (isLongest_iff hne).1⟩
  · intro lead hlead
    rw [(isLongest_iff hne).1 hlead]
    exact textStem_eq_ite excluded hlength
  · intro least greatest hleast hgreatest lead
    rw [Text.commonLead_of_extremes hleast hgreatest]
    exact cutsBack_iff hne
  · exact (admits_textStem excluded sources).resolve_left

/-- Sources whose shared lead holds the text that is excluded twice, the two overlapping. -/
def overlapping : List Text := ["aaay.js".toList, "aaax.js".toList]

theorem textStem_longest_overlapping :
    CutsBack "aa".toList "aaa".toList "a".toList ∧ IsLongest "aa".toList overlapping "a".toList ∧
      textStem "aa".toList overlapping = "a".toList := by
  have hlength : 2 ≤ overlapping.length := by decide
  obtain ⟨-, hstem, -, hcuts, -⟩ := textStem_longest "aa".toList hlength
  have hleast : IsLeast {s | s ∈ overlapping} "aaax.js".toList := by
    have hbelow : ∀ s ∈ overlapping, "aaax.js".toList ≤ s := by decide
    exact ⟨by decide, fun s hs => hbelow s hs⟩
  have hgreatest : IsGreatest {s | s ∈ overlapping} "aaay.js".toList := by
    have habove : ∀ s ∈ overlapping, s ≤ "aaay.js".toList := by decide
    exact ⟨by decide, fun s hs => habove s hs⟩
  have hrounds : CutsBack "aa".toList "aaa".toList "a".toList := by
    refine .round ?_ (.round ?_ (.stop ?_))
    · decide
    · decide
    · decide
  have hlongest := (hcuts _ _ hleast hgreatest "a".toList).1 hrounds
  exact ⟨hrounds, hlongest, hstem _ hlongest⟩

end Retrace.Trace
