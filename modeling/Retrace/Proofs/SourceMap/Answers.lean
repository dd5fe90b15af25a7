import Mathlib.Tactic
import Retrace.SourceMap.Basic

/-!
# Where answers come from

Whatever a map answers is the origin of one of its tokens (`exists_origin_of_resolve`), so a fact
about all the origins of a map is one about all its answers.
-/

namespace Retrace.SourceMap

/-- The tables of a map: its own, or those of its sections. -/
def tables : SourceMap → List Table
  | .regular table => [table]
  | .indexed sections => sections.map (·.table)

/-- The origins of the tokens of a map. -/
def origins (m : SourceMap) : List Origin := m.tables.flatten.flatten.filterMap (·.origin)

/-! ## Queries -/

lemma isPosition_iff {line column : Int} :
    isPosition line column = true ↔ 1 ≤ line ∧ 0 ≤ column := by
  rw [isPosition, Bool.and_eq_true, decide_eq_true_eq, decide_eq_true_eq]

lemma exists_of_isPosition {line column : Int} (h : isPosition line column = true) :
    ∃ n k : Nat, line = n + 1 ∧ column = k := by
  obtain ⟨hline, hcolumn⟩ := isPosition_iff.1 h
  exact ⟨(line - 1).toNat, column.toNat, by omega, by omega⟩

/-- The lines of a query are counted from one. -/
lemma token?_succ (m : SourceMap) (line column : Nat) :
    m.token? (line + 1) column = m.lookup? line column := by
  have hposition : isPosition (line + 1) column = true := isPosition_iff.2 (by omega)
  have hline : ((line : Int) + 1 - 1).toNat = line := by omega
  rw [token?, if_pos hposition, hline, Int.toNat_natCast]

/-! ## Look-up -/

lemma mem_of_tokenAt? {tokens : List Token} {column : Nat} {token : Token}
    (h : tokenAt? tokens column = some token) : token ∈ tokens :=
  List.mem_reverse.1 (List.mem_of_find?_eq_some h)

lemma mem_of_tokenCovering? {tokens : List Token} {column : Nat} {token : Token}
    (h : tokenCovering? tokens column = some token) : token ∈ tokens := by
  unfold tokenCovering? at h
  split at h
  · next hit =>
    obtain rfl := Option.some.inj h
    exact mem_of_tokenAt? hit
  · dsimp only at h
    split at h
    · simp at h
    · obtain ⟨c, -, hc⟩ := Option.bind_eq_some_iff.1 h
      exact mem_of_tokenAt? hc

lemma mem_of_tableLookup? {table : Table} {line column : Nat} {token : Token}
    (h : table.lookup? line column = some token) : token ∈ table.flatten := by
  obtain ⟨tokens, htokens, htoken⟩ := Option.bind_eq_some_iff.1 h
  exact List.mem_flatten.2 ⟨tokens, List.mem_of_getElem? htokens, mem_of_tokenCovering? htoken⟩

lemma mem_of_sectionAt? {sections : List Section} {line column : Int} {s : Section}
    (h : sectionAt? sections line column = some s) : s ∈ sections :=
  (List.takeWhile_sublist _).subset (List.mem_of_getLast? h)

lemma mem_of_lookup? {m : SourceMap} {line column : Nat} {token : Token}
    (h : m.lookup? line column = some token) : token ∈ m.tables.flatten.flatten := by
  cases m with
  | regular table =>
    rw [tables, List.flatten_singleton]
    exact mem_of_tableLookup? h
  | indexed sections =>
    obtain ⟨s, hs, htoken⟩ := Option.bind_eq_some_iff.1 h
    obtain ⟨tokens, htokens, hmem⟩ := List.mem_flatten.1 (mem_of_tableLookup? htoken)
    refine List.mem_flatten.2 ⟨tokens, List.mem_flatten.2 ⟨s.table, ?_, htokens⟩, hmem⟩
    exact List.mem_map_of_mem (mem_of_sectionAt? hs)

/-! ## Answers -/

/-- **Answers are origins.** A position that a map answers is that of the origin of a token. -/
theorem exists_origin_of_resolve {m : SourceMap} {line column : Int} {p : Position}
    (h : m.resolve line column = some p) : ∃ o ∈ m.origins, o.position? = some p := by
  obtain ⟨token, htoken, horigin⟩ := Option.bind_eq_some_iff.1 h
  obtain ⟨o, ho, hposition⟩ := Option.bind_eq_some_iff.1 horigin
  refine ⟨o, ?_, hposition⟩
  rw [token?] at htoken
  split at htoken
  · exact List.mem_filterMap.2 ⟨token, mem_of_lookup? htoken, ho⟩
  · simp at htoken

lemma Origin.position?_eq_some {o : Origin} {p : Position} (h : o.position? = some p) :
    o.source ≠ .null ∧
      p = ⟨o.source, o.line + 1, o.column, o.name.filter (!·.isEmpty)⟩ := by
  unfold Origin.position? at h
  split at h
  · simp at h
  · next hnull => exact ⟨hnull, (Option.some.inj h).symm⟩

end Retrace.SourceMap
