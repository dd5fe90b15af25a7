import Mathlib.Data.List.Infix
import Mathlib.Tactic
import Retrace.Text.Basic

/-!
# Cutting texts

`Text.occursIn` and `Text.startsWith` decide whether one text is an infix or a prefix of another,
and `Text.splitOn` cuts at the leftmost occurrences of a separator.  The main results say that
joining undoes cutting (`join_splitOn`), that no piece holds the separator
(`not_infix_of_mem_splitOn`), and when cutting undoes joining (`splitOn_join`).

A piece may be followed by a separator only if the separator does not come up earlier, across the
end of the piece: `Text.Clear sep piece` says that no occurrence of `sep` starts inside `piece`
once a separator follows it.  With an empty line as the separator this is a piece without an empty
line that does not end a line (`clear_lineFeeds_iff`).
-/

namespace Retrace.Text

/-! ## One text inside another -/

lemma dropLead?_append (lead t : Text) : dropLead? lead (lead ++ t) = some t := by
  induction lead with
  | nil => simp [dropLead?]
  | cons c lead ih => simpa [dropLead?] using ih

lemma eq_append_of_dropLead? {lead t rest : Text} (h : dropLead? lead t = some rest) :
    t = lead ++ rest := by
  induction lead generalizing t with
  | nil => simpa [dropLead?] using h
  | cons a lead ih =>
    cases t with
    | nil => simp [dropLead?] at h
    | cons c t =>
      simp only [dropLead?] at h
      split at h
      · next hac => rw [hac, ih h, List.cons_append]
      · simp at h

lemma startsWith_iff {lead t : Text} : startsWith lead t = true ↔ lead <+: t := by
  rw [startsWith, Option.isSome_iff_exists]
  constructor
  · rintro ⟨rest, h⟩
    exact ⟨rest, (eq_append_of_dropLead? h).symm⟩
  · rintro ⟨rest, rfl⟩
    exact ⟨rest, dropLead?_append lead rest⟩

lemma occursIn_iff {needle t : Text} : occursIn needle t = true ↔ needle <:+: t := by
  rw [occursIn]
  induction t with
  | nil => cases needle <;> simp [firstIndex?]
  | cons c t ih =>
    rw [List.infix_cons_iff, ← startsWith_iff, ← ih, firstIndex?]
    by_cases h : startsWith needle (c :: t) = true
    · simp [h]
    · simp [h]

lemma occursIn_eq_false_iff {needle t : Text} : occursIn needle t = false ↔ ¬ needle <:+: t := by
  rw [← occursIn_iff, Bool.not_eq_true]

/-- Among items of which one has a needle in its text, there is a first one. -/
lemma exists_first_infix {α : Type} {needle : Text} {text : α → Text} {items : List α}
    (h : ∃ x ∈ items, needle <:+: text x) : ∃ before x after, items = before ++ x :: after ∧
      (∀ y ∈ before, ¬ needle <:+: text y) ∧ needle <:+: text x := by
  obtain ⟨x, hx, hin⟩ := h
  have hfound : (items.find? fun x => occursIn needle (text x)).isSome :=
    List.find?_isSome.2 ⟨x, hx, occursIn_iff.2 hin⟩
  obtain ⟨first, hfirst⟩ := Option.isSome_iff_exists.1 hfound
  obtain ⟨hin, before, after, hitems, hbefore⟩ := List.find?_eq_some_iff_append.1 hfirst
  refine ⟨before, first, after, hitems, ?_, occursIn_iff.1 hin⟩
  intro y hy
  exact occursIn_eq_false_iff.1 (by simpa using hbefore y hy)

/-! ## Pieces -/

/-- Followed by a separator, a piece is cut off where it ends: no occurrence of the separator
starts inside the piece. -/
def Clear (sep piece : Text) : Prop := ¬ sep <:+: piece ++ sep.dropLast

lemma Clear.tail {sep : Text} {c : Char} {piece : Text} (h : Clear sep (c :: piece)) :
    Clear sep piece := by
  intro hin
  exact h (List.infix_cons hin)

lemma Clear.not_infix {sep piece : Text} (h : Clear sep piece) : ¬ sep <:+: piece :=
  fun hin => h (hin.trans (List.prefix_append _ _).isInfix)

lemma clear_nil {sep : Text} (hne : sep ≠ []) : Clear sep [] := by
  intro hin
  have hpos := List.length_pos_iff.2 hne
  have hlength := hin.length_le
  simp only [List.nil_append, List.length_dropLast] at hlength
  omega

lemma isPrefix_append_dropLast (sep piece rest : Text) :
    piece ++ sep.dropLast <+: piece ++ sep ++ rest := by
  rw [List.append_assoc, List.prefix_append_right_inj]
  exact (List.dropLast_prefix sep).trans (List.prefix_append sep rest)

lemma Clear.not_startsWith {sep : Text} {c : Char} {piece : Text} (h : Clear sep (c :: piece))
    (rest : Text) : startsWith sep (c :: piece ++ sep ++ rest) = false := by
  rw [← Bool.not_eq_true, startsWith_iff]
  intro hstart
  have hne : sep ≠ [] := by
    rintro rfl
    exact h List.nil_infix
  have hlead := isPrefix_append_dropLast sep (c :: piece) rest
  have hlength : sep.length ≤ (c :: piece ++ sep.dropLast).length := by
    have := List.length_pos_iff.2 hne
    simp only [List.length_append, List.length_cons, List.length_dropLast]
    omega
  exact h (List.prefix_of_prefix_length_le hstart hlead hlength).isInfix

/-- A separator that has been met is passed over to its end. -/
lemma piecesAfter_length (sep skipped rest : Text) :
    piecesAfter sep skipped.length (skipped ++ rest) = piecesAfter sep 0 rest := by
  induction skipped with
  | nil => rfl
  | cons c skipped ih => simpa [piecesAfter] using ih

lemma splitOn_sep_append {sep : Text} (hne : sep ≠ []) (rest : Text) :
    splitOn sep (sep ++ rest) = [] :: splitOn sep rest := by
  obtain ⟨c, sep', rfl⟩ := List.exists_cons_of_ne_nil hne
  have hstart : startsWith (c :: sep') (c :: (sep' ++ rest)) = true :=
    startsWith_iff.2 ⟨rest, rfl⟩
  rw [splitOn, List.cons_append, piecesAfter, if_pos hstart]
  congr 1
  exact piecesAfter_length _ sep' rest

lemma splitOn_append_sep {sep piece : Text} (hne : sep ≠ []) (h : Clear sep piece)
    (rest : Text) : splitOn sep (piece ++ sep ++ rest) = piece :: splitOn sep rest := by
  induction piece with
  | nil => exact splitOn_sep_append hne rest
  | cons c piece ih =>
    have hstart : ¬ startsWith sep (c :: (piece ++ sep ++ rest)) = true := by
      rw [Bool.not_eq_true]
      exact h.not_startsWith rest
    have hrest := ih h.tail
    rw [splitOn] at hrest
    rw [splitOn, List.cons_append, List.cons_append, piecesAfter, if_neg hstart, hrest, consPiece]

lemma splitOn_eq_singleton {sep t : Text} (h : ¬ sep <:+: t) : splitOn sep t = [t] := by
  rw [splitOn]
  induction t with
  | nil => rfl
  | cons c t ih =>
    have hstart : ¬ startsWith sep (c :: t) = true := by
      rw [startsWith_iff]
      exact fun hp => h hp.isInfix
    rw [piecesAfter, if_neg hstart, ih fun hin => h (List.infix_cons hin), consPiece]

/-- A text in which a separator occurs is a clear piece up to the leftmost occurrence and a rest
behind it. -/
lemma exists_leftmost {sep t : Text} (hne : sep ≠ []) (h : sep <:+: t) :
    ∃ piece rest, t = piece ++ sep ++ rest ∧ Clear sep piece := by
  induction t with
  | nil => exact absurd (List.infix_nil.1 h) hne
  | cons c t ih =>
    by_cases hstart : sep <+: c :: t
    · obtain ⟨rest, hrest⟩ := hstart
      exact ⟨[], rest, by simpa using hrest.symm, clear_nil hne⟩
    · obtain ⟨piece, rest, rfl, hclear⟩ := ih ((List.infix_cons_iff.1 h).resolve_left hstart)
      refine ⟨c :: piece, rest, rfl, ?_⟩
      intro hin
      rcases List.infix_cons_iff.1 hin with hfirst | hlater
      · apply hstart
        exact hfirst.trans ((List.prefix_cons_inj c).2 (isPrefix_append_dropLast sep piece rest))
      · exact hclear hlater

/-- What holds of every text without the separator, and of a text if it holds of what follows the
leftmost separator in it, holds of every text. -/
theorem cutting_induction {sep : Text} (hne : sep ≠ []) {motive : Text → Prop}
    (whole : ∀ t, ¬ sep <:+: t → motive t)
    (cut : ∀ piece rest, Clear sep piece → motive rest → motive (piece ++ sep ++ rest))
    (t : Text) : motive t := by
  induction hlength : t.length using Nat.strong_induction_on generalizing t with
  | h n ih =>
    by_cases hin : sep <:+: t
    · obtain ⟨piece, rest, rfl, hclear⟩ := exists_leftmost hne hin
      have hpos := List.length_pos_iff.2 hne
      have hshorter : rest.length < n := by
        rw [← hlength, List.length_append, List.length_append]
        omega
      exact cut piece rest hclear (ih rest.length hshorter rest rfl)
    · exact whole t hin

lemma splitOn_ne_nil {sep : Text} (hne : sep ≠ []) (t : Text) : splitOn sep t ≠ [] := by
  induction t using cutting_induction hne with
  | whole t h =>
    rw [splitOn_eq_singleton h]
    exact List.cons_ne_nil _ _
  | cut piece rest h _ =>
    rw [splitOn_append_sep hne h]
    exact List.cons_ne_nil _ _

/-- The separator comes up in no piece. -/
theorem not_infix_of_mem_splitOn {sep t piece : Text} (hne : sep ≠ [])
    (h : piece ∈ splitOn sep t) : ¬ sep <:+: piece := by
  induction t using cutting_induction hne with
  | whole t hwhole =>
    rw [splitOn_eq_singleton hwhole, List.mem_singleton] at h
    rw [h]
    exact hwhole
  | cut first rest hclear ih =>
    rw [splitOn_append_sep hne hclear, List.mem_cons] at h
    rcases h with rfl | h
    · exact hclear.not_infix
    · exact ih h

/-! ## Cutting what was joined -/

@[simp] lemma join_singleton (sep piece : Text) : join sep [piece] = piece := by
  simp [join]

lemma join_cons {sep piece : Text} {pieces : List Text} (hne : pieces ≠ []) :
    join sep (piece :: pieces) = piece ++ sep ++ join sep pieces := by
  obtain ⟨next, pieces, rfl⟩ := List.exists_cons_of_ne_nil hne
  simp [join, List.intercalate_cons_cons]

lemma join_append {sep : Text} {front back : List Text} (hfront : front ≠ []) (hback : back ≠ []) :
    join sep (front ++ back) = join sep front ++ sep ++ join sep back := by
  induction front with
  | nil => exact absurd rfl hfront
  | cons piece front ih =>
    by_cases hnil : front = []
    · rw [hnil, List.singleton_append, join_cons hback, join_singleton]
    · rw [List.cons_append, join_cons (by simp [hnil]), ih hnil, join_cons hnil]
      simp only [List.append_assoc]

/-- Joining undoes cutting. -/
theorem join_splitOn {sep : Text} (hne : sep ≠ []) (t : Text) : join sep (splitOn sep t) = t := by
  induction t using cutting_induction hne with
  | whole t h => rw [splitOn_eq_singleton h, join_singleton]
  | cut piece rest h ih => rw [splitOn_append_sep hne h, join_cons (splitOn_ne_nil hne rest), ih]

lemma mem_of_mem_join {sep : Text} {pieces : List Text} {c : Char} (h : c ∈ join sep pieces) :
    c ∈ sep ∨ ∃ piece ∈ pieces, c ∈ piece := by
  induction pieces with
  | nil => simp [join] at h
  | cons piece pieces ih =>
    by_cases hne : pieces = []
    · rw [hne, join_singleton] at h
      exact Or.inr ⟨piece, by simp, h⟩
    · rw [join_cons hne, List.mem_append, List.mem_append] at h
      rcases h with (h | h) | h
      · exact Or.inr ⟨piece, by simp, h⟩
      · exact Or.inl h
      · rcases ih h with h | ⟨next, hnext, hc⟩
        · exact Or.inl h
        · exact Or.inr ⟨next, by simp [hnext], hc⟩

/-- Clear pieces are cut off one by one, whatever the last piece and what follows it. -/
theorem splitOn_join_append {sep : Text} (hne : sep ≠ []) {pieces : List Text}
    (h : ∀ piece ∈ pieces, Clear sep piece) (last rest : Text) :
    splitOn sep (join sep (pieces ++ [last]) ++ rest) = pieces ++ splitOn sep (last ++ rest) := by
  induction pieces with
  | nil => simp
  | cons piece pieces ih =>
    have hpiece := h piece (by simp)
    have hrest := ih fun p hp => h p (by simp [hp])
    rw [List.cons_append, join_cons (by simp), List.append_assoc, splitOn_append_sep hne hpiece,
      hrest, List.cons_append]

/-- Cutting undoes joining with a separator that comes up in no piece, nor across the end of one
that is not the last. -/
theorem splitOn_join {sep : Text} (hne : sep ≠ []) {pieces : List Text}
    (h : ∀ piece ∈ pieces, Clear sep piece) {last : Text} (hlast : ¬ sep <:+: last) :
    splitOn sep (join sep (pieces ++ [last])) = pieces ++ [last] := by
  have := splitOn_join_append hne h last []
  simpa [splitOn_eq_singleton hlast] using this

lemma join_concat_nil {sep : Text} {pieces : List Text} (hne : pieces ≠ []) :
    join sep (pieces ++ [[]]) = join sep pieces ++ sep := by
  rw [join_append hne (by simp), join_singleton, List.append_nil]

/-! ## Cutting at the last separator -/

lemma splitLast?_isSome_append {sep : Text} (hne : sep ≠ []) (before after : Text) :
    (splitLast? sep (before ++ sep ++ after)).isSome = true := by
  induction before with
  | nil =>
    obtain ⟨c, sep', rfl⟩ := List.exists_cons_of_ne_nil hne
    have hlead : dropLead? (c :: sep') (c :: (sep' ++ after)) = some after :=
      dropLead?_append (c :: sep') after
    simp only [List.nil_append, List.cons_append, splitLast?]
    split
    · simp
    · simp [hlead]
  | cons c before ih =>
    obtain ⟨⟨early, late⟩, h⟩ := Option.isSome_iff_exists.1 ih
    simp only [List.cons_append, splitLast?, h, Option.isSome_some]

lemma eq_append_of_splitLast? {sep t before after : Text}
    (h : splitLast? sep t = some (before, after)) :
    t = before ++ sep ++ after := by
  induction t generalizing before with
  | nil => simp [splitLast?] at h
  | cons c t ih =>
    rw [splitLast?] at h
    split at h
    · next early late hrest =>
      obtain ⟨rfl, rfl⟩ := Prod.mk.inj (Option.some.inj h)
      rw [ih hrest, List.cons_append, List.cons_append]
    · obtain ⟨rest, hrest, hpair⟩ := Option.map_eq_some_iff.1 h
      obtain ⟨rfl, rfl⟩ := Prod.mk.inj hpair
      rw [eq_append_of_dropLead? hrest, List.nil_append]

/-- No later cut is possible. -/
lemma length_le_of_splitLast? {sep t before after : Text} (hne : sep ≠ [])
    (h : splitLast? sep t = some (before, after)) {early late : Text}
    (ht : t = early ++ sep ++ late) : early.length ≤ before.length := by
  induction t generalizing before early with
  | nil => simp [splitLast?] at h
  | cons c t ih =>
    cases early with
    | nil => exact Nat.zero_le _
    | cons d early =>
      obtain ⟨rfl, hrest⟩ : c = d ∧ t = early ++ sep ++ late := List.cons.inj ht
      have hcut := splitLast?_isSome_append hne early late
      obtain ⟨⟨front, back⟩, hcut⟩ := Option.isSome_iff_exists.1 hcut
      rw [← hrest] at hcut
      rw [splitLast?, hcut] at h
      obtain ⟨rfl, rfl⟩ := Prod.mk.inj (Option.some.inj h)
      exact Nat.succ_le_succ (ih hcut hrest)

/-- The cut is where the text before it is longest. -/
theorem splitLast?_eq_some_iff {sep t before after : Text} (hne : sep ≠ []) :
    splitLast? sep t = some (before, after) ↔ t = before ++ sep ++ after ∧
      ∀ early late, t = early ++ sep ++ late → early.length ≤ before.length := by
  constructor
  · intro h
    exact ⟨eq_append_of_splitLast? h, fun _ _ ht => length_le_of_splitLast? hne h ht⟩
  · rintro ⟨ht, hlongest⟩
    have hsome := splitLast?_isSome_append hne before after
    obtain ⟨⟨front, back⟩, hcut⟩ := Option.isSome_iff_exists.1 hsome
    rw [← ht] at hcut
    have hfront := eq_append_of_splitLast? hcut
    have hlength : front.length = before.length :=
      Nat.le_antisymm (hlongest _ _ hfront) (length_le_of_splitLast? hne hcut ht)
    have hsame : front ++ (sep ++ back) = before ++ (sep ++ after) := by
      rw [← List.append_assoc, ← List.append_assoc, ← hfront, ← ht]
    obtain ⟨rfl, hrest⟩ := List.append_inj hsame hlength
    rw [hcut, List.append_cancel_left hrest]

/-- A cut is the last one if no other separator starts inside it or behind it. -/
lemma splitLast?_append_iff {sep : Text} (hne : sep ≠ []) (before after : Text) :
    splitLast? sep (before ++ sep ++ after) = some (before, after) ↔
      ¬ sep <:+: sep.tail ++ after := by
  obtain ⟨c, rest, rfl⟩ := List.exists_cons_of_ne_nil hne
  rw [splitLast?_eq_some_iff hne, List.tail_cons]
  constructor
  · rintro ⟨-, hlongest⟩ ⟨early, late, hlater⟩
    have hsame : before ++ (c :: rest) ++ after =
        (before ++ c :: early) ++ (c :: rest) ++ late := by
      simp only [List.append_assoc, List.cons_append] at hlater ⊢
      rw [hlater]
    have hle := hlongest _ _ hsame
    rw [List.length_append, List.length_cons] at hle
    omega
  · intro hclear
    refine ⟨rfl, fun early late hsame => ?_⟩
    by_contra hlonger
    have hbefore : before <+: early ++ (c :: rest) ++ late := by
      rw [← hsame, List.append_assoc]
      exact List.prefix_append _ _
    have hearly : early <+: early ++ (c :: rest) ++ late := by
      rw [List.append_assoc]
      exact List.prefix_append _ _
    have hlead : before <+: early := List.prefix_of_prefix_length_le hbefore hearly (by omega)
    obtain ⟨more, rfl⟩ := hlead
    simp only [List.append_assoc, List.append_cancel_left_eq] at hsame
    cases more with
    | nil => simp at hlonger
    | cons d more =>
      obtain ⟨-, hrest⟩ := List.cons.inj hsame
      exact hclear ⟨more, late, by simpa using hrest.symm⟩

/-! ## Separators of one character -/

lemma singleton_infix_iff {c : Char} {t : Text} : [c] <:+: t ↔ c ∈ t := by
  constructor
  · intro h
    exact h.subset (by simp)
  · intro h
    obtain ⟨before, after, rfl⟩ := List.append_of_mem h
    exact ⟨before, after, by simp⟩

lemma clear_singleton_iff {c : Char} {piece : Text} : Clear [c] piece ↔ c ∉ piece := by
  simp [Clear, singleton_infix_iff]

/-- Lines joined by a character that none of them contains are cut again where they were
joined. -/
theorem splitOn_join_singleton {c : Char} {pieces : List Text} (hne : pieces ≠ [])
    (h : ∀ piece ∈ pieces, c ∉ piece) : splitOn [c] (join [c] pieces) = pieces := by
  have hsplit := List.dropLast_append_getLast hne
  rw [← hsplit]
  refine splitOn_join (by simp) (fun piece hp => ?_) ?_
  · exact clear_singleton_iff.2 (h piece (List.dropLast_subset _ hp))
  · rw [singleton_infix_iff]
    exact h _ (List.getLast_mem hne)

lemma splitOn_singleton_cons (sep c : Char) (t : Text) :
    splitOn [sep] (c :: t) =
      if sep = c then [] :: splitOn [sep] t else consPiece c (splitOn [sep] t) := by
  have hstart : startsWith [sep] (c :: t) = true ↔ sep = c := by
    rw [startsWith_iff, List.cons_prefix_cons]
    simp
  rw [splitOn, piecesAfter]
  exact if_congr hstart rfl rfl

/-- A change of characters that keeps a separator and makes no other character one commutes with
cutting. -/
lemma splitOn_map {sep : Char} {f : Char → Char} (hf : ∀ c, f c = sep ↔ c = sep) (t : Text) :
    splitOn [sep] (t.map f) = (splitOn [sep] t).map (List.map f) := by
  induction t with
  | nil => rfl
  | cons c t ih =>
    rw [List.map_cons, splitOn_singleton_cons, splitOn_singleton_cons, ih]
    by_cases hc : c = sep
    · rw [if_pos ((hf c).2 hc).symm, if_pos hc.symm]
      rfl
    · rw [if_neg (Ne.symm (mt (hf c).1 hc)), if_neg (Ne.symm hc)]
      cases splitOn [sep] t <;> rfl

/-- What holds of the characters of all pieces holds of all characters but the separators. -/
lemma forall_mem_splitOn {sep : Char} {P : Char → Prop} {t : Text} :
    (∀ piece ∈ splitOn [sep] t, ∀ c ∈ piece, P c) ↔ ∀ c ∈ t, c = sep ∨ P c := by
  induction t with
  | nil => simp [splitOn, piecesAfter]
  | cons c t ih =>
    rw [splitOn_singleton_cons, List.forall_mem_cons, ← ih]
    by_cases hc : c = sep
    · simp [hc]
    · rw [if_neg (Ne.symm hc)]
      cases splitOn [sep] t with
      | nil => simp [consPiece, hc]
      | cons piece pieces => simp [consPiece, hc, and_assoc]

/-- What starts with a character that does not come up in the first part of a text lies in the
second part. -/
lemma infix_of_infix_append {c : Char} {needle before after : Text} (hc : c ∉ before)
    (h : c :: needle <:+: before ++ after) : c :: needle <:+: after := by
  induction before with
  | nil => exact h
  | cons d before ih =>
    simp only [List.mem_cons, not_or] at hc
    rcases List.infix_cons_iff.1 h with hstart | hlater
    · exact absurd (List.cons_prefix_cons.1 hstart).1 hc.1
    · exact ih hc.2 hlater

/-! ## An empty line as the separator -/

lemma clear_lineFeeds_iff {piece : Text} :
    Clear "\n\n".toList piece ↔ ¬ "\n\n".toList <:+: piece ∧ piece.getLast? ≠ some '\n' := by
  have hdrop : "\n\n".toList.dropLast = ['\n'] := rfl
  rw [Clear, hdrop, ← not_or, not_iff_not, List.infix_concat_iff]
  constructor
  · rintro (hend | hin)
    · right
      obtain ⟨before, hbefore⟩ := hend
      have : before ++ ['\n'] ++ ['\n'] = piece ++ ['\n'] := by simpa using hbefore
      rw [← List.append_cancel_right this]
      simp
    · exact Or.inl hin
  · rintro (hin | hend)
    · exact Or.inr hin
    · left
      obtain ⟨before, rfl⟩ := List.getLast?_eq_some_iff.1 hend
      exact ⟨before, by simp⟩

end Retrace.Text
