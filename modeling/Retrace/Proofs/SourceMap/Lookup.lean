import Retrace.Proofs.Bisection
import Retrace.SourceMap.Table

/-!
# Look-up on sorted lines

On a line whose columns are sorted, the halving of `halve` counts the columns up to the one asked
for (`halve_eq_length`), and so `tokenCovering?` is the last token whose column is at most that
(`tokenCovering?_eq_find?`), whether a token is hit exactly or not.
-/

namespace Retrace.SourceMap

/-! ## Halving -/

/-- Halving is bisection. -/
lemma halve_eq_bisect (column steps : Nat) (columns : List Nat) :
    halve column steps columns = bisect (fun c => decide (column < c)) steps columns := by
  induction steps generalizing columns with
  | zero => rfl
  | succ steps ih =>
    rw [halve, bisect]
    cases columns.drop (columns.length / 2) with
    | nil => rfl
    | cons c rest => simp only [ih, decide_eq_true_eq]

/-- Columns up to the one asked for, followed by greater ones, are counted by halving. -/
lemma halve_eq_length {column : Nat} {front back : List Nat} (hfront : ∀ c ∈ front, c ≤ column)
    (hback : ∀ c ∈ back, column < c) {steps : Nat} (hsteps : (front ++ back).length ≤ steps) :
    halve column steps (front ++ back) = front.length := by
  rw [halve_eq_bisect]
  refine bisect_eq_length ?_ ?_ hsteps
  · intro c hc
    exact decide_eq_false (not_lt.2 (hfront c hc))
  · intro c hc
    exact decide_eq_true (hback c hc)

/-! ## Tokens of a sorted line -/

/-- A sorted line is cut in two by a column. -/
lemma exists_split {tokens : List Token} (h : tokens.Pairwise (·.column ≤ ·.column))
    (column : Nat) : ∃ front back, tokens = front ++ back ∧ (∀ t ∈ front, t.column ≤ column) ∧
      ∀ t ∈ back, column < t.column := by
  induction tokens with
  | nil => exact ⟨[], [], rfl, by simp, by simp⟩
  | cons token tokens ih =>
    obtain ⟨hfirst, hrest⟩ := List.pairwise_cons.1 h
    by_cases hle : token.column ≤ column
    · obtain ⟨front, back, rfl, hfront, hback⟩ := ih hrest
      refine ⟨token :: front, back, rfl, ?_, hback⟩
      simpa [hle] using hfront
    · refine ⟨[], token :: tokens, rfl, by simp, ?_⟩
      intro t ht
      rcases List.mem_cons.1 ht with rfl | ht
      · omega
      · have := hfirst t ht
        omega

lemma tokenAt?_append_above {front back : List Token} {column : Nat}
    (h : ∀ t ∈ back, column < t.column) :
    tokenAt? (front ++ back) column = tokenAt? front column := by
  have hnone : back.reverse.find? (·.column = column) = none := by
    rw [List.find?_eq_none]
    intro t ht
    have := h t (List.mem_reverse.1 ht)
    simp only [decide_eq_true_eq]
    omega
  rw [tokenAt?, List.reverse_append, List.find?_append, hnone]
  rfl

lemma tokenAt?_concat_self (tokens : List Token) (token : Token) :
    tokenAt? (tokens ++ [token]) token.column = some token := by
  simp [tokenAt?]

lemma tokenAt?_eq_none {tokens : List Token} {column : Nat} (h : ∀ t ∈ tokens, t.column < column) :
    tokenAt? tokens column = none := by
  rw [tokenAt?, List.find?_eq_none]
  intro t ht
  have := h t (List.mem_reverse.1 ht)
  simp only [decide_eq_true_eq]
  omega

/-- **Look-up on a sorted line.** The token that covers a column is the last one up to it. -/
theorem tokenCovering?_eq_find? {tokens : List Token}
    (h : tokens.Pairwise (·.column ≤ ·.column)) (column : Nat) :
    tokenCovering? tokens column = tokens.reverse.find? (·.column ≤ column) := by
  obtain ⟨front, back, rfl, hfront, hback⟩ := exists_split h column
  have hbackNone : back.reverse.find? (·.column ≤ column) = none := by
    rw [List.find?_eq_none]
    intro t ht
    have := hback t (List.mem_reverse.1 ht)
    simp only [decide_eq_true_eq]
    omega
  have hcount : halve column ((front ++ back).map (·.column)).length
      ((front ++ back).map (·.column)) = front.length := by
    rw [List.map_append, halve_eq_length (by simpa using hfront) (by simpa using hback) le_rfl,
      List.length_map]
  rw [List.reverse_append, List.find?_append, hbackNone, Option.none_or, tokenCovering?,
    tokenAt?_append_above hback]
  simp only [hcount]
  rcases List.eq_nil_or_concat' front with rfl | ⟨before, token, rfl⟩
  · rfl
  have hlast : token.column ≤ column := hfront token (by simp)
  have hfound : (before ++ [token]).reverse.find? (·.column ≤ column) = some token := by
    simp [hlast]
  rw [hfound]
  by_cases hhit : token.column = column
  · rw [← hhit, tokenAt?_concat_self]
  · have hbefore : ∀ t ∈ before ++ [token], t.column < column := by
      intro t ht
      rcases List.mem_append.1 ht with ht | ht
      · have hle := (List.pairwise_append.1 (List.pairwise_append.1 h).1).2.2 t ht token (by simp)
        omega
      · obtain rfl := List.mem_singleton.1 ht
        omega
    have hback' : ∀ t ∈ back, token.column < t.column := by
      intro t ht
      have := hback t ht
      omega
    have hcolumn : ((before ++ [token] ++ back).map (·.column))[before.length]? =
        some token.column := by
      simp
    rw [tokenAt?_eq_none hbefore, List.length_append, List.length_singleton]
    simp only [hcolumn, Option.bind_some]
    rw [tokenAt?_append_above hback', tokenAt?_concat_self]

/-! ## Tables -/

/-- A table is looked up on one of its lines; lines behind the last one have no tokens. -/
lemma lookup?_eq_tokenCovering? (table : Table) (line column : Nat) :
    table.lookup? line column = tokenCovering? (table.getD line []) column := by
  rw [Table.lookup?, List.getD_eq_getElem?_getD]
  cases table[line]? with
  | none => rfl
  | some tokens => rfl

end Retrace.SourceMap
