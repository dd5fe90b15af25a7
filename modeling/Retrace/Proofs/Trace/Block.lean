import Retrace.Proofs.Text.Cutting
import Retrace.Trace.Block

/-!
# The selected block

The block of a report that is selected is the first of its pieces that contains the marker
(`selectBlock_of_blocks`), and no other block is ever selected (`exists_of_selectBlock`).  No piece
holds the separator, so a marker that does is selected in no report, and any other one is in some
(`exists_selectBlock_iff`).
-/

namespace Retrace.Trace

lemma defaultSeparator_ne_nil : defaultSeparator ≠ [] := by decide

lemma find?_zipIdx_of_first {marker : Text} {before : List Text} {block : Text}
    (hbefore : ∀ t ∈ before, ¬ marker <:+: t) (hblock : marker <:+: block) (after : List Text) :
    (before ++ block :: after).zipIdx.find? (fun (text, _) => Text.occursIn marker text) =
      some (block, before.length) := by
  have hnone : before.zipIdx.find? (fun (text, _) => Text.occursIn marker text) = none := by
    rw [List.find?_eq_none]
    rintro ⟨text, index⟩ hmem
    have htext : text ∈ before := (List.mem_zipIdx' hmem).2 ▸ List.getElem_mem _
    simp [Text.occursIn_eq_false_iff.2 (hbefore text htext)]
  rw [List.zipIdx_append, List.find?_append, hnone, Option.none_or, List.zipIdx_cons,
    List.find?_cons_of_pos (by simpa using Text.occursIn_iff.2 hblock), Nat.zero_add]

theorem selectBlock_of_blocks {marker separator report : Text} (hne : separator ≠ [])
    {before after : List Text} {block : Text}
    (hblocks : blocks separator report = before ++ block :: after)
    (hbefore : ∀ t ∈ before, ¬ marker <:+: t) (hblock : marker <:+: block) :
    selectBlock marker separator report =
      .ok { text := block, index := before.length
            count := (before ++ block :: after).length } := by
  have hfind := find?_zipIdx_of_first hbefore hblock after
  rw [selectBlock, if_neg (by simpa using hne), hblocks]
  simp only [hfind]

theorem exists_of_selectBlock {marker separator report : Text} {block : Block}
    (h : selectBlock marker separator report = .ok block) :
    separator ≠ [] ∧ ∃ before after, blocks separator report = before ++ block.text :: after ∧
      (∀ t ∈ before, ¬ marker <:+: t) ∧ marker <:+: block.text := by
  rw [selectBlock] at h
  split at h
  · cases h
  · next hne =>
    refine ⟨by simpa using hne, ?_⟩
    dsimp only at h
    split at h
    · cases h
    · next text index hfind =>
      obtain rfl := Except.ok.inj h
      obtain ⟨hmarked, before, after, hsplit, hbefore⟩ := List.find?_eq_some_iff_append.1 hfind
      refine ⟨before.map (·.1), after.map (·.1), ?_, ?_, Text.occursIn_iff.1 hmarked⟩
      · have htexts := congrArg (List.map Prod.fst) hsplit
        rw [List.map_append, List.map_cons, List.zipIdx_map_fst] at htexts
        exact htexts
      · intro t ht
        obtain ⟨pair, hpair, rfl⟩ := List.mem_map.1 ht
        exact Text.occursIn_eq_false_iff.1 (by simpa using hbefore pair hpair)

/-- Selection fails only for want of a block with the marker. -/
lemma selectBlock_cases {separator : Text} (hne : separator ≠ []) (marker report : Text) :
    (∃ block, selectBlock marker separator report = .ok block) ∨
      selectBlock marker separator report = .error (.noBlock marker) := by
  rw [selectBlock, if_neg (by simpa using hne)]
  dsimp only
  split
  · exact Or.inr rfl
  · exact Or.inl ⟨_, rfl⟩

/-- There is a report in which a marker is selected, unless the marker holds the separator. -/
theorem exists_selectBlock_iff {marker separator : Text} (hne : separator ≠ []) :
    (∃ report block, selectBlock marker separator report = .ok block) ↔
      ¬ separator <:+: marker := by
  constructor
  · rintro ⟨report, block, h⟩ hin
    obtain ⟨-, before, after, hblocks, -, hmarked⟩ := exists_of_selectBlock h
    have hpiece : block.text ∈ Text.splitOn separator report := by
      rw [← blocks, hblocks]
      simp
    exact Text.not_infix_of_mem_splitOn hne hpiece (hin.trans hmarked)
  · intro hclear
    have hblocks : blocks separator marker = [] ++ marker :: [] := Text.splitOn_eq_singleton hclear
    exact ⟨marker, _, selectBlock_of_blocks hne hblocks (by simp) List.infix_rfl⟩

end Retrace.Trace
