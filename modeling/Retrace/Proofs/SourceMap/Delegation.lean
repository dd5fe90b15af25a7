import Mathlib.Data.List.TakeWhile
import Retrace.Proofs.SourceMap.Answers
import Retrace.Proofs.SourceMap.Closest
import Retrace.Proofs.SourceMap.Decoding
import Retrace.Proofs.SourceMap.Encoding
import Retrace.Proofs.SourceMap.Sections

/-!
# Delegated queries

A map delegates a query to one of its tables: to its own, or to that of the section the position
belongs to, with the position relative to the start of the section.  Look-up in a table can go wrong
there, and `Table.fetch` spells out how: a negative line is one from the end of the table, and a
column that is listed for it may have no token kept for it, in which case look-up goes astray.

On a map that is loaded none of this happens.  The section of a position starts at or before it, so
that no query gets negative, whatever the signs and the order of the offsets (`delegate?_nonneg`);
and every listed column has a token, so that look-up in a table does not go astray
(`fetch_natCast`).
-/

namespace Retrace.SourceMap

/-! ## Look-up that can go wrong -/

/-- Why no token is found. -/
inductive Miss
  /-- Nothing covers the position. -/
  | uncovered
  /-- A column is listed that no token is kept for. -/
  | astray
deriving DecidableEq, Repr

/-- The token that is kept for a position of any sign. -/
def Table.keptAt? (table : Table) (line column : Int) : Option Token :=
  (item? table line).bind fun tokens =>
    if column < 0 then none else tokenAt? tokens column.toNat

/-- The line of a number, which counts from the end if it is negative. -/
def Table.lineFromEitherEnd? (table : Table) (line : Int) : Option (List Token) :=
  item? table (if line < 0 then table.length + line else line)

/-- The token that covers a position of any sign, or why there is none. -/
def Table.fetch (table : Table) (line column : Int) : Except Miss Token :=
  match table.keptAt? line column with
  | some token => .ok token
  | none =>
    match table.lineFromEitherEnd? line with
    | none => .error .uncovered
    | some tokens =>
      let columns : List Nat := tokens.map (·.column)
      match bisect (fun c : Nat => decide (column < c)) columns.length columns with
      | 0 => .error .uncovered
      | count + 1 =>
        match columns[count]?.bind fun c : Nat => table.keptAt? line c with
        | some token => .ok token
        | none => .error .astray

/-- A query to a table. -/
structure Query where
  table : Table
  line : Int
  column : Int

/-- The query that a map delegates a position to, counted from zero.  There is none before the first
section. -/
def delegate? (m : SourceMap) (line column : Int) : Option Query :=
  match m with
  | .regular table => some ⟨table, line, column⟩
  | .indexed sections =>
    match bisect (fun s : Section => !s.startsBy line column) sections.length sections with
    | 0 => none
    | count + 1 =>
      sections[count]?.map fun s =>
        ⟨s.table, line - s.line, if line = s.line then column - s.column else column⟩

/-! ## Tables -/

lemma Table.keptAt?_natCast (table : Table) (line column : Nat) :
    table.keptAt? line column = table[line]?.bind (tokenAt? · column) := by
  have hcolumn : ¬ (column : Int) < 0 := by omega
  simp only [Table.keptAt?, item?_natCast, if_neg hcolumn, Int.toNat_natCast]

lemma Table.lineFromEitherEnd?_natCast (table : Table) (line : Nat) :
    table.lineFromEitherEnd? line = table[line]? := by
  have hline : ¬ (line : Int) < 0 := by omega
  rw [Table.lineFromEitherEnd?, if_neg hline, item?_natCast]

/-- A token is kept for every column of a line. -/
lemma exists_tokenAt?_of_mem {tokens : List Token} {column : Nat}
    (h : column ∈ tokens.map (·.column)) : ∃ token, tokenAt? tokens column = some token := by
  obtain ⟨token, htoken, hcolumn⟩ := List.mem_map.1 h
  rw [← Option.isSome_iff_exists, tokenAt?, List.find?_isSome]
  exact ⟨token, List.mem_reverse.2 htoken, by simpa using hcolumn⟩

/-- Look-up of a position that is not negative finds the token that covers it, and does not go
astray. -/
lemma Table.fetch_natCast (table : Table) (line column : Nat) :
    table.fetch line column = (table.lookup? line column).elim (.error .uncovered) .ok := by
  rw [Table.fetch, Table.keptAt?_natCast, Table.lineFromEitherEnd?_natCast, Table.lookup?]
  cases hline : table[line]? with
  | none => rfl
  | some tokens =>
    rw [Option.bind_some, Option.bind_some, tokenCovering?]
    cases tokenAt? tokens column with
    | some token => rfl
    | none =>
      simp only [Int.ofNat_lt, ← halve_eq_bisect]
      cases hcount : halve column (tokens.map (·.column)).length (tokens.map (·.column)) with
      | zero => rfl
      | succ count =>
        obtain ⟨c, hc, -⟩ := exists_le_of_halve hcount
        obtain ⟨token, htoken⟩ := exists_tokenAt?_of_mem (List.mem_of_getElem? hc)
        simp only [hc, Option.bind_some, Table.keptAt?_natCast, hline, htoken]
        rfl

/-- A negative line is not safe to ask for: its columns are found, but no token is kept for them. -/
example : Table.fetch [[⟨4, none⟩]] (-1) 5 = .error .astray := rfl

/-! ## Sections -/

/-- The sections of a loaded map are in order. -/
lemma sorted_of_load {path : Option Text} {t : Text} {sections : List Section}
    (h : load path t = .ok (.indexed sections)) : Section.Sorted sections := by
  obtain ⟨-, -, listed, -, -, -, rfl⟩ := exists_listed_of_load h
  exact Section.sorted_sort listed

/-- Behind a section that starts after a position, all sections do. -/
lemma Section.Sorted.not_startsBy {s : Section} {sections : List Section} {line column : Int}
    (h : Section.Sorted (s :: sections)) (hs : ¬ s.startsBy line column = true) :
    ∀ u ∈ s :: sections, ¬ u.startsBy line column = true := by
  intro u hu
  rcases List.mem_cons.1 hu with rfl | hu
  · exact hs
  · have hsu := (List.pairwise_cons.1 h).1 u hu
    rw [Section.startsBy_iff] at hs hsu ⊢
    omega

/-- Bisection of sections in order counts those that start at or before a position. -/
lemma Section.Sorted.bisect_eq {sections : List Section} (h : Section.Sorted sections)
    (line column : Int) :
    bisect (fun s : Section => !s.startsBy line column) sections.length sections =
      (sections.takeWhile (·.startsBy line column)).length := by
  have hsplit : sections.takeWhile (·.startsBy line column) ++
      sections.dropWhile (·.startsBy line column) = sections := List.takeWhile_append_dropWhile
  have hfront : ∀ s ∈ sections.takeWhile (·.startsBy line column),
      (!s.startsBy line column) = false := by
    intro s hs
    simpa using List.mem_takeWhile_imp hs
  have hback : ∀ s ∈ sections.dropWhile (·.startsBy line column),
      (!s.startsBy line column) = true := by
    cases hdrop : sections.dropWhile (·.startsBy line column) with
    | nil => simp
    | cons first later =>
      have hfirst : ¬ first.startsBy line column = true := by
        have := List.head?_dropWhile_not (·.startsBy line column) sections
        rw [hdrop] at this
        simpa using this
      have hsorted : Section.Sorted (first :: later) := by
        rw [← hdrop]
        exact h.sublist (List.dropWhile_sublist _)
      intro s hs
      simpa using hsorted.not_startsBy hfirst s hs
  have hall := bisect_eq_length hfront hback le_rfl
  rwa [hsplit] at hall

/-- **No wrapping around.** The query that a position is delegated to is not negative. -/
lemma delegate?_nonneg {m : SourceMap} {line column : Int} {q : Query} (hline : 0 ≤ line)
    (hcolumn : 0 ≤ column) (h : m.delegate? line column = some q) : 0 ≤ q.line ∧ 0 ≤ q.column := by
  cases m with
  | regular table =>
    obtain rfl := Option.some.inj h
    exact ⟨hline, hcolumn⟩
  | indexed sections =>
    simp only [delegate?] at h
    split at h
    · cases h
    · next count hcount =>
      obtain ⟨s, hs, rfl⟩ := Option.map_eq_some_iff.1 h
      obtain ⟨u, hu, hstarts⟩ := exists_of_bisect hcount
      obtain rfl := Option.some.inj (hs.symm.trans hu)
      have hby : s.startsBy line column = true := by simpa using hstarts
      rw [Section.startsBy_iff] at hby
      dsimp only
      split
      · omega
      · omega

/-- Sections in order delegate a position to the one that it belongs to. -/
lemma Section.Sorted.delegate?_eq {sections : List Section} (h : Section.Sorted sections)
    (line column : Int) :
    (SourceMap.indexed sections).delegate? line column =
      (sectionAt? sections line column).map fun s =>
        ⟨s.table, line - s.line, if line = s.line then column - s.column else column⟩ := by
  have hsplit : sections.takeWhile (·.startsBy line column) ++
      sections.dropWhile (·.startsBy line column) = sections := List.takeWhile_append_dropWhile
  rw [delegate?, h.bisect_eq, sectionAt?]
  rcases List.eq_nil_or_concat' (sections.takeWhile (·.startsBy line column)) with
    hnone | ⟨front, s, hfront⟩
  · simp only [hnone]
    rfl
  · have hs : sections[front.length]? = some s := by
      rw [← hsplit, hfront]
      simp
    simp only [hfront, List.getLast?_concat, List.length_append, List.length_singleton, hs]

/-- What sections in order delegate a position to is where they look it up. -/
lemma Section.Sorted.lookup?_eq_delegate? {sections : List Section} (h : Section.Sorted sections)
    (line column : Nat) :
    (SourceMap.indexed sections).lookup? line column =
      ((SourceMap.indexed sections).delegate? line column).bind fun q =>
        q.table.lookup? q.line.toNat q.column.toNat := by
  rw [SourceMap.lookup?, h.delegate?_eq]
  cases sectionAt? sections line column <;> rfl

/-- What a loaded map delegates a position to is where it looks the position up. -/
lemma lookup?_eq_delegate? {path : Option Text} {t : Text} {m : SourceMap}
    (h : load path t = .ok m) (line column : Nat) :
    m.lookup? line column = (m.delegate? line column).bind fun q =>
      q.table.lookup? q.line.toNat q.column.toNat := by
  cases m with
  | regular table => rfl
  | indexed sections => exact (sorted_of_load h).lookup?_eq_delegate? line column

/-! ### Sections out of order -/

/-- An index map that lists first a section behind the other, which starts before all code. -/
def overhangingText : Text :=
  "\x7b\"sections\":[\x7b\"offset\":\x7b\"line\":1,\"column\":2\x7d,".toList ++
    "\"map\":\x7b\"sources\":[\"b.js\"],\"names\":[],\"mappings\":\"AAAA\"\x7d\x7d,".toList ++
    "\x7b\"offset\":\x7b\"line\":-1,\"column\":-3\x7d,".toList ++
    "\"map\":\x7b\"sources\":[\"a.js\"],\"names\":[],\"mappings\":\";AAAA\"\x7d\x7d]\x7d".toList

/-- The table with one token, at the start of a line of the generated code and of a source. -/
def tableOfStart (lines : Nat) (source : Text) : Table :=
  List.replicate lines [] ++ [[⟨0, some ⟨.text source, 0, 0, none⟩⟩]]

/-- Its sections in order. -/
def overhanging : SourceMap :=
  .indexed [⟨-1, -3, tableOfStart 1 "a.js".toList⟩, ⟨1, 2, tableOfStart 0 "b.js".toList⟩]

lemma load_overhangingText : load none overhangingText = .ok overhanging := by cbv

end Retrace.SourceMap
