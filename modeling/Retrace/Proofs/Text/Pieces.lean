import Retrace.Proofs.Text.Cutting

/-!
# The pieces of a text

`Cut` says what the pieces of a text are without saying how they are found: each but the last ends
where the leftmost separator behind its start begins, and the last holds no separator.  These are
the pieces that `Text.splitOn` gives, and there are no others (`cut_iff`).

A piece is looked for by a text that it holds, and this may come up across the end of a piece as
well.  It does not if it shares no character with the separator: then it comes up in a text exactly
if it does in a piece (`infix_iff_exists_mem_splitOn`), and first of all in the first piece that
holds it (`exists_first_of_front`).
-/

namespace Retrace.Text

variable {sep needle piece rest t : Text} {pieces : List Text}

/-! ## Leftmost separators -/

/-- No separator starts inside a piece exactly if the one behind it is the leftmost. -/
lemma clear_iff_leftmost (hne : sep ≠ []) : Clear sep piece ↔
    ∀ early late, piece ++ sep ++ rest = early ++ sep ++ late → piece.length ≤ early.length := by
  have hpos := List.length_pos_iff.2 hne
  have hlead := isPrefix_append_dropLast sep piece rest
  constructor
  · intro hclear early late hsame
    by_contra hearlier
    have hother : early ++ sep <+: piece ++ sep ++ rest := hsame ▸ List.prefix_append _ late
    have hinside : early ++ sep <+: piece ++ sep.dropLast := by
      refine List.prefix_of_prefix_length_le hother hlead ?_
      rw [List.length_append, List.length_append, List.length_dropLast]
      omega
    exact hclear ((List.suffix_append early sep).isInfix.trans hinside.isInfix)
  · rintro hleftmost ⟨early, late, hin⟩
    obtain ⟨more, hmore⟩ := hlead
    have hearly : piece.length ≤ early.length := by
      refine hleftmost early (late ++ more) ?_
      rw [← hmore, ← hin, List.append_assoc (early ++ sep)]
    have hlength := congrArg List.length hin
    simp only [List.length_append, List.length_dropLast] at hlength
    omega

/-- The pieces of a text between the leftmost separators that do not overlap. -/
inductive Cut (sep : Text) : Text → List Text → Prop
  | whole {t : Text} (h : ¬ sep <:+: t) : Cut sep t [t]
  | next {piece rest : Text} {pieces : List Text}
      (leftmost : ∀ early late, piece ++ sep ++ rest = early ++ sep ++ late →
        piece.length ≤ early.length)
      (h : Cut sep rest pieces) : Cut sep (piece ++ sep ++ rest) (piece :: pieces)

/-- A text has the pieces that it is split into, and no others. -/
theorem cut_iff (hne : sep ≠ []) : Cut sep t pieces ↔ splitOn sep t = pieces := by
  constructor
  · intro h
    induction h with
    | whole hwhole => exact splitOn_eq_singleton hwhole
    | next leftmost _ ih => rw [splitOn_append_sep hne ((clear_iff_leftmost hne).2 leftmost), ih]
  · rintro rfl
    induction t using cutting_induction hne with
    | whole t hwhole =>
      rw [splitOn_eq_singleton hwhole]
      exact .whole hwhole
    | cut piece rest hclear ih =>
      rw [splitOn_append_sep hne hclear]
      exact .next ((clear_iff_leftmost hne).1 hclear) ih

/-! ## What stands around a piece -/

/-- Pieces with a separator behind each. -/
def front (sep : Text) (pieces : List Text) : Text := pieces.flatMap (· ++ sep)

/-- Pieces with a separator before each. -/
def back (sep : Text) (pieces : List Text) : Text := pieces.flatMap (sep ++ ·)

lemma front_nil (sep : Text) : front sep [] = [] := rfl

lemma front_cons (sep piece : Text) (pieces : List Text) :
    front sep (piece :: pieces) = piece ++ sep ++ front sep pieces := List.flatMap_cons

lemma join_cons_eq (sep piece : Text) (after : List Text) :
    join sep (piece :: after) = piece ++ back sep after := by
  induction after generalizing piece with
  | nil => simp [back]
  | cons next after ih =>
    rw [join_cons (List.cons_ne_nil next after), ih, back, back, List.flatMap_cons]
    simp only [List.append_assoc]

lemma join_around (sep : Text) (before : List Text) (piece : Text) (after : List Text) :
    join sep (before ++ piece :: after) = front sep before ++ piece ++ back sep after := by
  induction before with
  | nil => rw [List.nil_append, join_cons_eq, front_nil, List.nil_append]
  | cons first before ih =>
    rw [List.cons_append, join_cons (by simp), ih, front_cons]
    simp only [List.append_assoc]

lemma front_eq_nil_or_suffix (sep : Text) (pieces : List Text) :
    front sep pieces = [] ∨ sep <:+ front sep pieces := by
  rcases List.eq_nil_or_concat' pieces with rfl | ⟨init, last, rfl⟩
  · exact Or.inl rfl
  · right
    rw [front, List.flatMap_append, List.flatMap_singleton, ← List.append_assoc]
    exact List.suffix_append _ sep

lemma back_eq_nil_or_prefix (sep : Text) (pieces : List Text) :
    back sep pieces = [] ∨ sep <+: back sep pieces := by
  cases pieces with
  | nil => exact Or.inl rfl
  | cons piece pieces =>
    right
    rw [back, List.flatMap_cons, List.append_assoc]
    exact List.prefix_append sep _

/-! ## Texts apart from the separator -/

/-- A text that shares no character with the separator does not come up across it. -/
lemma infix_append_sep_iff (hne : needle ≠ []) (hsep : sep ≠ [])
    (hapart : ∀ c ∈ needle, c ∉ sep) :
    needle <:+: piece ++ sep ++ rest ↔ needle <:+: piece ∨ needle <:+: rest := by
  obtain ⟨c, needle, rfl⟩ := List.exists_cons_of_ne_nil hne
  constructor
  · rw [List.append_assoc, List.infix_append_iff]
    rintro (hin | hin | ⟨early, late, hsplit, hearly, hlate⟩)
    · exact Or.inl hin
    · exact Or.inr (infix_of_infix_append (hapart c List.mem_cons_self) hin)
    · cases late with
      | nil =>
        rw [List.append_nil] at hsplit
        exact Or.inl (hsplit ▸ hearly.isInfix)
      | cons d late =>
        -- What lies beyond the piece would start with a character of the separator.
        obtain ⟨e, sep, rfl⟩ := List.exists_cons_of_ne_nil hsep
        obtain ⟨rfl, -⟩ := List.cons_prefix_cons.1 hlate
        exact absurd List.mem_cons_self (hapart d (by simp [hsplit]))
  · rintro (hin | hin)
    · exact hin.trans ((List.prefix_append _ _).trans (List.prefix_append _ _)).isInfix
    · exact hin.trans (List.suffix_append _ _).isInfix

lemma infix_front_append_iff (hne : needle ≠ []) (hsep : sep ≠ [])
    (hapart : ∀ c ∈ needle, c ∉ sep) :
    needle <:+: front sep pieces ++ t ↔ (∃ piece ∈ pieces, needle <:+: piece) ∨ needle <:+: t := by
  induction pieces with
  | nil => simp [front_nil]
  | cons piece pieces ih =>
    rw [front_cons, List.append_assoc, infix_append_sep_iff hne hsep hapart, ih]
    simp only [List.exists_mem_cons_iff, or_assoc]

/-- A text apart from the separator comes up where it does in a piece. -/
theorem infix_iff_exists_mem_splitOn (hsep : sep ≠ []) (hapart : ∀ c ∈ needle, c ∉ sep) :
    needle <:+: t ↔ ∃ piece ∈ splitOn sep t, needle <:+: piece := by
  have hpieces := splitOn_ne_nil hsep t
  by_cases hne : needle = []
  · subst hne
    obtain ⟨piece, hpiece⟩ := List.exists_mem_of_ne_nil _ hpieces
    exact iff_of_true List.nil_infix ⟨piece, hpiece, List.nil_infix⟩
  · obtain ⟨init, last, hsplit⟩ := (List.eq_nil_or_concat' _).resolve_left hpieces
    have ht : t = front sep init ++ last := by
      rw [← join_splitOn hsep t, hsplit, join_around]
      simp [back]
    conv_lhs => rw [ht, infix_front_append_iff hne hsep hapart]
    rw [hsplit]
    simp [or_and_right, exists_or]

/-- Where no piece before holds a text apart from the separator, the first place of the text in a
piece is its first place at all. -/
lemma exists_first_of_front (hsep : sep ≠ []) (hapart : ∀ c ∈ needle, c ∉ sep)
    (hbefore : ∀ p ∈ pieces, ¬ needle <:+: p) (hin : needle <:+: piece) (rest : Text) :
    ∃ early late, piece = early ++ needle ++ late ∧
      ∀ early' late', front sep pieces ++ piece ++ rest = early' ++ needle ++ late' →
        (front sep pieces ++ early).length ≤ early'.length := by
  by_cases hne : needle = []
  · subst hne
    have hnone : pieces = [] :=
      List.eq_nil_iff_forall_not_mem.2 fun p hp => hbefore p hp List.nil_infix
    subst hnone
    exact ⟨[], piece, rfl, fun _ _ _ => Nat.zero_le _⟩
  · obtain ⟨early, late, rfl, hclear⟩ := exists_leftmost hne hin
    refine ⟨early, late, rfl, fun early' late' hsame => ?_⟩
    have hclear' : Clear needle (front sep pieces ++ early) := by
      rw [Clear, List.append_assoc, infix_front_append_iff hne hsep hapart]
      rintro (⟨p, hp, hmarked⟩ | hin')
      · exact hbefore p hp hmarked
      · exact hclear hin'
    have hplace : front sep pieces ++ early ++ needle ++ (late ++ rest) =
        early' ++ needle ++ late' := by
      rw [← hsame]
      simp only [List.append_assoc]
    exact (clear_iff_leftmost hne).1 hclear' early' late' hplace

end Retrace.Text
