import Retrace.Proofs.SourceMap.Lookup

/-!
# Look-up on lines in any order

Halving takes no notice of the order of the columns, and the columns of a line may come in any
order.  Two things are left of look-up then: the token that is found stands at or before the column
asked for (`stands_of_tokenCovering?`), and a token is found at its own column
(`tokenCovering?_of_stands`).  What is lost is that no other token is closer.

`Closest` says which token is the closest one.  It is found for every column of a line in order
(`isClosest_tokenCovering?`), and order is what it takes: a line out of order, cut off behind the
first token that is out of place, has another token found for some column (`inOrder_iff`).
-/

namespace Retrace.SourceMap

/-! ## Halving in any order -/

/-- Whatever the order of the columns, halving ends behind one that is at most the one asked
for. -/
lemma exists_le_of_halve {column steps count : Nat} {columns : List Nat}
    (h : halve column steps columns = count + 1) : ∃ c, columns[count]? = some c ∧ c ≤ column := by
  rw [halve_eq_bisect] at h
  obtain ⟨c, hc, hafter⟩ := exists_of_bisect h
  exact ⟨c, hc, not_lt.1 (of_decide_eq_false hafter)⟩

/-! ## Tokens of a line -/

/-- A token of a line that no later one at its column replaces. -/
def Stands (tokens : List Token) (token : Token) : Prop :=
  ∃ before after, tokens = before ++ token :: after ∧ ∀ u ∈ after, u.column ≠ token.column

lemma Stands.mem {tokens : List Token} {token : Token} (h : Stands tokens token) :
    token ∈ tokens := by
  obtain ⟨before, after, rfl, -⟩ := h
  simp

lemma tokenAt?_eq_some_iff {tokens : List Token} {column : Nat} {token : Token} :
    tokenAt? tokens column = some token ↔ token.column = column ∧ Stands tokens token := by
  rw [tokenAt?, List.find?_eq_some_iff_append]
  simp only [decide_eq_true_eq, Bool.not_eq_true', decide_eq_false_iff_not]
  constructor
  · rintro ⟨rfl, later, earlier, hreverse, hlater⟩
    refine ⟨rfl, earlier.reverse, later.reverse, ?_, ?_⟩
    · rw [← List.reverse_reverse tokens, hreverse]
      simp
    · intro u hu
      exact hlater u (List.mem_reverse.1 hu)
  · rintro ⟨rfl, before, after, rfl, hafter⟩
    refine ⟨rfl, after.reverse, before.reverse, by simp, ?_⟩
    intro u hu
    exact hafter u (List.mem_reverse.1 hu)

/-- Whatever the order of a line, the token that is found for a column stands at or before it. -/
lemma stands_of_tokenCovering? {tokens : List Token} {column : Nat} {token : Token}
    (h : tokenCovering? tokens column = some token) :
    Stands tokens token ∧ token.column ≤ column := by
  unfold tokenCovering? at h
  split at h
  · next hit =>
    obtain rfl := Option.some.inj h
    obtain ⟨hcolumn, hstands⟩ := tokenAt?_eq_some_iff.1 hit
    exact ⟨hstands, hcolumn.le⟩
  · dsimp only at h
    split at h
    · cases h
    · next count hcount =>
      obtain ⟨c, hc, hle⟩ := exists_le_of_halve hcount
      rw [hc, Option.bind_some] at h
      obtain ⟨rfl, hstands⟩ := tokenAt?_eq_some_iff.1 h
      exact ⟨hstands, hle⟩

/-- Whatever the order of a line, a token is found at its own column. -/
lemma tokenCovering?_of_stands {tokens : List Token} {token : Token} (h : Stands tokens token) :
    tokenCovering? tokens token.column = some token := by
  have hit : tokenAt? tokens token.column = some token := tokenAt?_eq_some_iff.2 ⟨rfl, h⟩
  simp only [tokenCovering?, hit]

/-! ## The closest token -/

/-- The token of a line that is closest to a column from below. -/
structure Closest (tokens : List Token) (column : Nat) (token : Token) : Prop where
  stands : Stands tokens token
  le : token.column ≤ column
  greatest : ∀ u ∈ tokens, u.column ≤ column → u.column ≤ token.column

/-- An answer is the closest token, or there is none because every token of the line comes later. -/
def IsClosest (tokens : List Token) (column : Nat) : Option Token → Prop
  | some token => Closest tokens column token
  | none => ∀ u ∈ tokens, column < u.column

lemma Closest.unique {tokens : List Token} {column : Nat} {token other : Token}
    (h : Closest tokens column token) (hother : Closest tokens column other) : token = other := by
  have hle := hother.greatest token h.stands.mem h.le
  have hge := h.greatest other hother.stands.mem hother.le
  have hcolumn : token.column = other.column := le_antisymm hle hge
  have hat := tokenAt?_eq_some_iff.2 ⟨rfl, h.stands⟩
  rw [hcolumn, tokenAt?_eq_some_iff.2 ⟨rfl, hother.stands⟩] at hat
  exact (Option.some.inj hat).symm

/-- The tokens of a line stand in the order of their columns. -/
def InOrder (tokens : List Token) : Prop := tokens.Pairwise (·.column ≤ ·.column)

instance (tokens : List Token) : Decidable (InOrder tokens) :=
  inferInstanceAs (Decidable (tokens.Pairwise (·.column ≤ ·.column)))

lemma inOrder_cons {token : Token} {tokens : List Token} :
    InOrder (token :: tokens) ↔ (∀ u ∈ tokens, token.column ≤ u.column) ∧ InOrder tokens :=
  List.pairwise_cons

lemma isClosest_tokenCovering? {tokens : List Token} (h : InOrder tokens) (column : Nat) :
    IsClosest tokens column (tokenCovering? tokens column) := by
  cases hfound : tokenCovering? tokens column with
  | none =>
    rw [tokenCovering?_eq_find? h] at hfound
    intro u hu
    have hnot := List.find?_eq_none.1 hfound u (List.mem_reverse.2 hu)
    simpa using hnot
  | some token =>
    obtain ⟨hstands, hle⟩ := stands_of_tokenCovering? hfound
    refine ⟨hstands, hle, ?_⟩
    rw [tokenCovering?_eq_find? h, List.find?_eq_some_iff_append] at hfound
    obtain ⟨-, later, earlier, hreverse, hlater⟩ := hfound
    have hsplit : tokens = earlier.reverse ++ token :: later.reverse := by
      rw [← List.reverse_reverse tokens, hreverse]
      simp
    intro u hu hup
    rw [hsplit, List.mem_append, List.mem_cons] at hu
    rcases hu with hu | rfl | hu
    · rw [InOrder, hsplit] at h
      exact (List.pairwise_append.1 h).2.2 u hu token (by simp)
    · exact le_rfl
    · have := hlater u (List.mem_reverse.1 hu)
      simp only [Bool.not_eq_true', decide_eq_false_iff_not] at this
      exact absurd hup this

/-- A column behind all tokens of a line is answered with the last of them. -/
lemma tokenCovering?_concat {tokens : List Token} {last : Token} {column : Nat}
    (h : ∀ u ∈ tokens ++ [last], u.column < column) :
    tokenCovering? (tokens ++ [last]) column = some last := by
  have hcount : halve column ((tokens ++ [last]).map (·.column)).length
      ((tokens ++ [last]).map (·.column)) = tokens.length + 1 := by
    have hfront : ∀ c ∈ (tokens ++ [last]).map (·.column), c ≤ column := by
      intro c hc
      obtain ⟨u, hu, rfl⟩ := List.mem_map.1 hc
      exact (h u hu).le
    have hback : ∀ c ∈ ([] : List Nat), column < c := by simp
    have hall := halve_eq_length hfront hback le_rfl
    rw [List.append_nil] at hall
    rw [hall, List.length_map, List.length_append, List.length_singleton]
  have hlast : ((tokens ++ [last]).map (·.column))[tokens.length]? = some last.column := by simp
  rw [tokenCovering?, tokenAt?_eq_none h]
  simp only [hcount, hlast, Option.bind_some]
  exact tokenAt?_concat_self tokens last

/-- Order is needed: a line and all lines that it starts with have the closest token found for every
column exactly if the line is in order. -/
theorem inOrder_iff {tokens : List Token} :
    InOrder tokens ↔ ∀ leading, leading <+: tokens → ∀ column,
      IsClosest leading column (tokenCovering? leading column) := by
  constructor
  · intro h leading hleading column
    exact isClosest_tokenCovering? (h.sublist hleading.sublist) column
  · intro h
    induction tokens using List.reverseRecOn with
    | nil => exact List.Pairwise.nil
    | append_singleton tokens last ih =>
      have hfront : InOrder tokens :=
        ih fun leading hleading => h leading (hleading.trans (List.prefix_append _ _))
      refine List.pairwise_append.2 ⟨hfront, List.pairwise_singleton _ _, ?_⟩
      intro u hu v hv
      obtain rfl := List.mem_singleton.1 hv
      -- A column behind all of them is answered with the last, which is then the closest.
      have hbehind : ∀ w ∈ tokens ++ [v],
          w.column < ((tokens ++ [v]).map (·.column)).sum + 1 := by
        intro w hw
        exact Nat.lt_succ_of_le (List.single_le_sum (by simp) _ (List.mem_map_of_mem hw))
      have hclosest := h (tokens ++ [v]) (List.prefix_refl _)
        (((tokens ++ [v]).map (·.column)).sum + 1)
      rw [tokenCovering?_concat hbehind] at hclosest
      exact hclosest.greatest u (by simp [hu]) (hbehind u (by simp [hu])).le

end Retrace.SourceMap
