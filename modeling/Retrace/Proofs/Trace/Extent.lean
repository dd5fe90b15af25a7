import Retrace.Proofs.Trace.Layout

/-!
# What a trace is read as, line by line

A trace ends before the first empty line after its first line, or with the last line (`IsEnd`).  No
line from there on is read (`entries_append_blank`), so what a trace is read as depends on the lines
before its end.  If all of them after the first are frames there is one entry for each line, and
otherwise the first that is not is the fault: `entries_of_isEnd`.
-/

namespace Retrace.Trace

open FrameLine (IsFrame Unshaped overlong?)

variable (m : SourceMap)

/-! ## The end of a trace -/

/-- A trace ends at the first empty line after its first line, or else after all lines. -/
def IsEnd (lines : List Text) (k : Nat) : Prop :=
  IsLeast {i | i = lines.length ∨ 1 ≤ i ∧ lines[i]? = some []} k

lemma exists_isEnd (lines : List Text) : ∃ k, IsEnd lines k :=
  ⟨_, Nat.sInf_mem ⟨lines.length, Or.inl rfl⟩, fun _ hi => Nat.sInf_le hi⟩

variable {lines : List Text} {k : Nat}

lemma IsEnd.le_length (h : IsEnd lines k) : k ≤ lines.length := h.2 (Or.inl rfl)

lemma take_ne_nil (hk : 1 ≤ k) (h : k < lines.length) : lines.take k ≠ [] := by
  rw [Ne, List.take_eq_nil_iff]
  rintro (rfl | rfl)
  · cases hk
  · cases h

lemma IsEnd.ne_nil (h : IsEnd lines k) {i : Nat} {line : Text} (hi : 1 ≤ i) (hik : i < k)
    (hline : lines[i]? = some line) : line ≠ [] := by
  rintro rfl
  exact absurd (h.2 (Or.inr ⟨hi, hline⟩)) (Nat.not_le.2 hik)

lemma isEnd_iff : IsEnd lines k ↔ (k = lines.length ∨ 1 ≤ k ∧ lines[k]? = some []) ∧
    k ≤ lines.length ∧ ∀ i < k, 1 ≤ i → lines[i]? ≠ some [] := by
  constructor
  · intro h
    exact ⟨h.1, h.le_length, fun i hik hi hblank => h.ne_nil hi hik hblank rfl⟩
  · rintro ⟨hend, hlength, hblank⟩
    refine ⟨hend, ?_⟩
    rintro i (rfl | ⟨hi, hline⟩)
    · exact hlength
    · exact Nat.not_lt.1 fun hik => hblank i hik hi hline

instance : Decidable (IsEnd lines k) := decidable_of_iff _ isEnd_iff.symm

/-- The lines of a trace, and what follows them. -/
lemma IsEnd.cases (h : IsEnd lines k) :
    lines.take k = lines ∨
      lines.take k ≠ [] ∧ lines = lines.take k ++ [] :: lines.drop (k + 1) := by
  rcases h.1 with rfl | ⟨hk, hblank⟩
  · exact Or.inl lines.take_length
  · obtain ⟨hlength, hget⟩ := List.getElem?_eq_some_iff.1 hblank
    refine Or.inr ⟨take_ne_nil hk hlength, ?_⟩
    rw [← hget, ← List.drop_eq_getElem_cons hlength, List.take_append_drop]

/-- Lines that agree up to the end of a trace have the same end. -/
lemma IsEnd.of_take_eq (h : IsEnd lines k) {others : List Text}
    (heq : others.take (k + 1) = lines.take (k + 1)) : IsEnd others k := by
  have hget {i : Nat} (hi : i ≤ k) : others[i]? = lines[i]? := by
    rw [← List.getElem?_take_of_lt (Nat.lt_succ_of_le hi), heq,
      List.getElem?_take_of_lt (Nat.lt_succ_of_le hi)]
  have hlower : k ∈ lowerBounds {i | i = others.length ∨ 1 ≤ i ∧ others[i]? = some []} := by
    intro i hi
    by_contra hik
    have hsame := hget (Nat.le_of_not_le hik)
    rcases hi with rfl | ⟨hi, hblank⟩
    · have hlength := h.le_length
      rw [List.getElem?_eq_none le_rfl] at hsame
      have hend : lines.length ≤ others.length := List.getElem?_eq_none_iff.1 hsame.symm
      omega
    · rw [hblank] at hsame
      exact hik (h.2 (Or.inr ⟨hi, hsame.symm⟩))
  refine ⟨?_, hlower⟩
  rcases h.1 with hk | ⟨hk, hblank⟩
  · have hnone : others[k]? = none := by rw [hget le_rfl, hk, List.getElem?_eq_none le_rfl]
    exact Or.inl (Nat.le_antisymm (hlower (Or.inl rfl)) (List.getElem?_eq_none_iff.1 hnone))
  · exact Or.inr ⟨hk, by rw [hget le_rfl, hblank]⟩

/-! ## Lines after the end -/

/-- Reading goes on among the frames, or stops. -/
lemma state_of_step {state state' : State} {index : Nat} {line : Text} {added : Option Entry}
    (h : step m state index line = .ok (state', added)) : state' = .inFrames ∨ state' = .done := by
  unfold step at h
  split at h
  · cases h
  · obtain ⟨rfl, -⟩ := Prod.mk.inj (Except.ok.inj h)
    exact Or.inl rfl
  · cases state with
    | awaiting =>
      obtain ⟨rfl, -⟩ := Prod.mk.inj (Except.ok.inj h)
      exact Or.inl rfl
    | inFrames | done =>
      dsimp only at h
      split at h
      · obtain ⟨rfl, -⟩ := Prod.mk.inj (Except.ok.inj h)
        exact Or.inr rfl
      · cases h

/-- What comes after a line counts only as far as it is read among the frames. -/
lemma entriesFrom_cons_congr {state : State} {index : Nat} {line : Text} {after others : List Text}
    (h : entriesFrom m .inFrames (index + 1) after = entriesFrom m .inFrames (index + 1) others) :
    entriesFrom m state index (line :: after) = entriesFrom m state index (line :: others) := by
  cases hstep : step m state index line with
  | error e => rw [entriesFrom_of_step_error m hstep, entriesFrom_of_step_error m hstep]
  | ok result =>
    obtain ⟨state', added⟩ := result
    rw [entriesFrom, entriesFrom, hstep]
    rcases state_of_step m hstep with rfl | rfl
    · simp only [h]
    · rfl

lemma entriesFrom_append_blank (front : List Text) (index : Nat) (after : List Text) :
    entriesFrom m .inFrames index (front ++ [] :: after) = entriesFrom m .inFrames index front := by
  induction front generalizing index with
  | nil => rw [List.nil_append, entriesFrom_blank, entriesFrom]
  | cons line front ih => exact entriesFrom_cons_congr m (ih (index + 1))

/-- **Nothing is read after the end.** Lines after an empty line that is not the first do not
count. -/
theorem entries_append_blank {front : List Text} (hne : front ≠ []) (after : List Text) :
    entries m (front ++ [] :: after) = entries m front := by
  obtain ⟨first, rest, rfl⟩ := List.exists_cons_of_ne_nil hne
  exact entriesFrom_cons_congr m (entriesFrom_append_blank m rest 1 after)

lemma IsEnd.entries_take (h : IsEnd lines k) : entries m (lines.take k) = entries m lines := by
  rcases h.cases with hall | ⟨hne, hlines⟩
  · rw [hall]
  · conv_rhs => rw [hlines]
    rw [entries_append_blank m hne]

/-! ## The outcome of a reading -/

/-- The entry that a line of a trace makes: a line that no shape fits stands for itself, and a frame
has the answer of the map to its position. -/
inductive Makes : Text → Entry → Prop
  | verbatim {line : Text} (h : Unshaped line) : Makes line (.verbatim line)
  | frame {line : Text} {f : FrameLine} (h : FrameLine.read? line = .ok (some f)) :
    Makes line (resolvedEntry line (m.resolve f.line f.column))

variable {m} in
lemma makes_entryOf {line : Text} (h : IsFrame line ∨ Unshaped line) :
    Makes m line (entryOf m line) := by
  rcases h with ⟨f, hf⟩ | hother
  · rw [entryOf, hf]
    dsimp only
    rw [frameEntry_eq]
    exact .frame hf
  · rw [entryOf_of_unshaped m hother]
    exact .verbatim hother

lemma isFrame_or_unshaped {line : Text} (h : overlong? line = none) :
    IsFrame line ∨ Unshaped line := by
  rcases FrameLine.line_cases line with hframe | hother | ⟨n, hover⟩
  · exact Or.inl hframe
  · exact Or.inr hother
  · rw [h] at hover
    cases hover

/-- The first of some readable lines are passed if all of them but the first are frames. -/
lemma passed_take (hread : ∀ line ∈ lines, overlong? line = none)
    (hframes : ∀ i line, 1 ≤ i → i < k → lines[i]? = some line → IsFrame line) :
    Passed (lines.take k) := by
  cases lines with
  | nil => simp [Passed]
  | cons first rest =>
    cases k with
    | zero => exact trivial
    | succ k =>
      refine ⟨isFrame_or_unshaped (hread first (by simp)), fun line hline => ?_⟩
      obtain ⟨i, hi⟩ := List.mem_iff_getElem?.1 hline
      rw [List.getElem?_take] at hi
      split at hi
      · next hik => exact hframes (i + 1) line (by omega) (by omega) hi
      · cases hi

/-- **What a trace is read as.** Let the numbers on the lines be readable, and let `k` be the end of
the trace.  If all lines before `k` but the first are frames, there is one entry for each line
before `k`; the first line may stand for itself.  Otherwise the first of them that is no frame is
the fault.  The lines after `k` do not count. -/
theorem entries_of_isEnd (hread : ∀ line ∈ lines, overlong? line = none) :
    ∃ k, IsEnd lines k ∧
      ((∀ i line, 1 ≤ i → i < k → lines[i]? = some line → IsFrame line) →
        ∃ es, entries m lines = .ok es ∧ List.Forall₂ (Makes m) (lines.take k) es) ∧
      (∀ i line, 1 ≤ i → i < k → lines[i]? = some line → ¬ IsFrame line →
        (∀ j other, 1 ≤ j → j < i → lines[j]? = some other → IsFrame other) →
        entries m lines = .error (.strayLine (i + 1) line)) ∧
      ∀ others : List Text, others.take (k + 1) = lines.take (k + 1) →
        entries m others = entries m lines := by
  obtain ⟨k, hk⟩ := exists_isEnd lines
  refine ⟨k, hk, fun hframes => ?_, fun i line hi hik hline hstray hbefore => ?_,
    fun others heq => ?_⟩
  · have hpassed : Passed (lines.take k) := passed_take hread hframes
    refine ⟨(lines.take k).map (entryOf m), ?_, ?_⟩
    · rw [← hk.entries_take, entries_of_passed m hpassed]
    · rw [List.forall₂_map_right_iff, List.forall₂_same]
      intro line hline
      exact makes_entryOf (isFrame_or_unshaped (hread line (List.mem_of_mem_take hline)))
  · obtain ⟨hlength, rfl⟩ := List.getElem?_eq_some_iff.1 hline
    have hpassed : Passed (lines.take i) := passed_take hread hbefore
    have hunshaped : Unshaped lines[i] :=
      (isFrame_or_unshaped (hread _ (List.getElem_mem hlength))).resolve_left hstray
    have hrun := entries_of_stray m (take_ne_nil hi hlength) hpassed hunshaped
      (hk.ne_nil hi hik hline) (lines.drop (i + 1))
    rwa [← List.drop_eq_getElem_cons hlength, List.take_append_drop,
      List.length_take_of_le hlength.le] at hrun
  · have hothers := congrArg (List.take k) heq
    rw [List.take_take, List.take_take, Nat.min_eq_left (Nat.le_succ k)] at hothers
    rw [← (hk.of_take_eq heq).entries_take, ← hk.entries_take, hothers]

/-- A trace that starts with a message, and ends at an empty line before one that is no frame. -/
def endedLines : List Text :=
  ["JavascriptException: x".toList, "f@1:7".toList, [], "Thread 1".toList]

/-- A trace with a line that is no frame. -/
def brokenLines : List Text := ["f@1:7".toList, [' '], "g@2:1".toList]

theorem entries_of_isEnd_ended :
    (∀ line ∈ endedLines, overlong? line = none) ∧ IsEnd endedLines 2 ∧
      (∃ es, entries (.regular [[]]) endedLines = .ok es ∧
        List.Forall₂ (Makes (.regular [[]])) (endedLines.take 2) es) ∧
      entries (.regular [[]]) (endedLines.take 3 ++ brokenLines) =
        entries (.regular [[]]) endedLines ∧
      IsEnd brokenLines 3 ∧
      entries (.regular [[]]) brokenLines = .error (.strayLine 2 [' ']) := by
  have hended : IsEnd endedLines 2 := by decide
  have hbroken : IsEnd brokenLines 3 := by decide
  have hframe : IsFrame "f@1:7".toList := ⟨⟨some ['f'], 1, 7, none⟩, rfl⟩
  have hstray : ¬ IsFrame [' '] := by
    rintro ⟨f, hf⟩
    cases hf
  have hread : ∀ line ∈ endedLines, overlong? line = none := by decide
  obtain ⟨k, hk, hentries, -, hafter⟩ := entries_of_isEnd (.regular [[]]) hread
  have hread' : ∀ line ∈ brokenLines, overlong? line = none := by decide
  obtain ⟨k', hk', -, hfault, -⟩ := entries_of_isEnd (.regular [[]]) hread'
  obtain rfl := hk.unique hended
  obtain rfl := hk'.unique hbroken
  refine ⟨hread, hended, hentries ?_, hafter _ (by decide), hbroken, ?_⟩
  · intro i line hi hik hline
    obtain rfl : i = 1 := by omega
    obtain rfl := Option.some.inj hline
    exact hframe
  · refine hfault 1 _ le_rfl (by decide) rfl hstray fun j _ hj hj' _ => ?_
    omega

end Retrace.Trace
