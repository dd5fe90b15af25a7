import Retrace.Proofs.SourceMap.Answers
import Retrace.Proofs.SourceMap.Document
import Retrace.Proofs.SourceMap.Lookup
import Retrace.SourceMap.Query

/-!
# What a regular map answers

A line of segments covers its columns from one segment to the next: `Covers` says which segment
that is, and `covering?` finds it.  `resolve_encoded` says of every text of a map whose mappings
encode some sorted lines that it is loaded, and that the map answers every position with the
segment that covers it.

A query finds no token, or one that stands for a position in the sources, or one that does not
(`SourceMap.found?`).  The answer depends on nothing else, and neither does what the journal is told
(`resolveIn_congr`).
-/

namespace Retrace.SourceMap

variable {sources names : List Text}

/-! ## Covering segments -/

/-- The segments of a line stand in the order of their columns. -/
def Ordered (line : List (Segment sources names)) : Prop := line.Pairwise (·.column ≤ ·.column)

instance (line : List (Segment sources names)) : Decidable (Ordered line) :=
  inferInstanceAs (Decidable (line.Pairwise (·.column ≤ ·.column)))

lemma ordered_getD {lines : List (List (Segment sources names))}
    (h : ∀ line ∈ lines, Ordered line) (k : Nat) : Ordered (lines.getD k []) := by
  rw [List.getD_eq_getElem?_getD]
  cases hget : lines[k]? with
  | none => exact List.Pairwise.nil
  | some segments => exact h segments (List.mem_of_getElem? hget)

/-- A segment covers a column: its own is the greatest up to that one, and of the segments at that
column it is the last. -/
def Covers (line : List (Segment sources names)) (column : Nat) (s : Segment sources names) :
    Prop :=
  ∃ before after, line = before ++ s :: after ∧ s.column ≤ column ∧
    (∀ u ∈ line, u.column ≤ column → u.column ≤ s.column) ∧ ∀ u ∈ after, u.column ≠ s.column

/-- The last segment of a line up to a column. -/
def covering? (line : List (Segment sources names)) (column : Nat) :
    Option (Segment sources names) :=
  line.reverse.find? (·.column ≤ column)

lemma covering?_of_covers {line : List (Segment sources names)} (hline : Ordered line)
    {column : Nat} {s : Segment sources names} (h : Covers line column s) :
    covering? line column = some s := by
  obtain ⟨before, after, rfl, hle, hgreatest, hlast⟩ := h
  have hafter : after.reverse.find? (·.column ≤ column) = none := by
    rw [List.find?_eq_none]
    intro u hu
    have hmem : u ∈ after := List.mem_reverse.1 hu
    have hsorted : s.column ≤ u.column :=
      (List.pairwise_cons.1 (List.pairwise_append.1 hline).2.1).1 u hmem
    have hne := hlast u hmem
    have hup := hgreatest u (by simp [hmem])
    simp only [decide_eq_true_eq]
    omega
  rw [covering?, List.reverse_append, List.reverse_cons, List.append_assoc, List.find?_append,
    hafter]
  simp [hle]

lemma covering?_eq_none {line : List (Segment sources names)} {column : Nat}
    (h : ∀ s ∈ line, column < s.column) : covering? line column = none := by
  rw [covering?, List.find?_eq_none]
  intro s hs
  have := h s (List.mem_reverse.1 hs)
  simp only [decide_eq_true_eq]
  omega

lemma tokenCovering?_map_token {line : List (Segment sources names)} (h : Ordered line)
    (column : Nat) :
    tokenCovering? (line.map Segment.token) column =
      (covering? line column).map Segment.token := by
  have hsorted : (line.map Segment.token).Pairwise (·.column ≤ ·.column) :=
    List.pairwise_map.2 h
  rw [tokenCovering?_eq_find? hsorted, ← List.map_reverse, List.find?_map]
  rfl

/-! ## Answers -/

/-- The position that a target is answered as: the line counted from one, and no empty name. -/
def Target.position (t : Target sources names) : Position where
  source := .text (sources.get t.source)
  line := t.line + 1
  column := t.column
  name := (t.name.map names.get).filter fun name => !name.isEmpty

/-- The position that a segment is answered as, if it stands for one. -/
def Segment.position? (s : Segment sources names) : Option Position :=
  s.target.map Target.position

/-- The position that a token is answered as, if it stands for one. -/
def Token.position? (token : Token) : Option Position := token.origin.bind Origin.position?

lemma position?_token (s : Segment sources names) : s.token.position? = s.position? := by
  obtain ⟨column, target⟩ := s
  cases target <;> rfl

lemma lookup?_tableOf {lines : List (List (Segment sources names))}
    (h : ∀ line ∈ lines, Ordered line) (line column : Nat) :
    (tableOf lines).lookup? line column =
      (covering? (lines.getD line []) column).map Segment.token := by
  rw [lookup?_eq_tokenCovering?, getD_tableOf, tokenCovering?_map_token (ordered_getD h line)]

lemma resolve_succ (m : SourceMap) (line column : Nat) :
    m.resolve (line + 1) column = (m.lookup? line column).bind Token.position? := by
  rw [resolve, token?_succ]
  rfl

/-- What a query finds: no token, or the position that a token stands for, if it stands for one. -/
def found? (m : SourceMap) (line column : Int) : Option (Option Position) :=
  (m.token? line column).map Token.position?

lemma found?_succ (m : SourceMap) (line column : Nat) :
    m.found? (line + 1) column = (m.lookup? line column).map Token.position? := by
  rw [found?, token?_succ]

lemma found?_of_not_isPosition (m : SourceMap) {line column : Int}
    (h : ¬ isPosition line column = true) : m.found? line column = none := by
  rw [found?, token?, if_neg h, Option.map_none]

lemma resolve_eq_join (m : SourceMap) (line column : Int) :
    m.resolve line column = (m.found? line column).join := by
  rw [resolve, found?]
  cases m.token? line column <;> rfl

lemma uncovered_eq (m : SourceMap) (line column : Int) :
    m.uncovered line column = (isPosition line column && (m.found? line column).isNone) := by
  rw [uncovered, found?, Option.isNone_map]

/-- Maps that find the same answer alike, and tell the journal the same. -/
lemma resolveIn_congr {m n : SourceMap} {line column : Int}
    (h : m.found? line column = n.found? line column) (s : Journal.Session) (name : Option Text) :
    m.resolveIn s name line column = n.resolveIn s name line column := by
  rw [resolveIn, resolveIn, uncovered_eq, uncovered_eq, resolve_eq_join, resolve_eq_join, h]

/-- In a session, a position that a token covers is answered, and of any other one the journal is
told. -/
lemma resolveIn_succ (m : SourceMap) (s : Journal.Session) (name : Option Text)
    (line column : Nat) :
    m.resolveIn s name (line + 1) column = (m.found? (line + 1) column).elim
      ((s.emit (unmappedEvent name (line + 1) column)).map fun _ => none) .ok := by
  have hposition : isPosition (line + 1) column = true := isPosition_iff.2 (by omega)
  rw [resolveIn, uncovered_eq, resolve_eq_join, hposition, Bool.true_and]
  cases m.found? (line + 1) column <;> rfl

/-- A regular map finds the segment that covers a position on its line. -/
theorem found?_tableOf {lines : List (List (Segment sources names))}
    (h : ∀ line ∈ lines, Ordered line) (line column : Nat) :
    (SourceMap.regular (tableOf lines)).found? (line + 1) column =
      (covering? (lines.getD line []) column).map Segment.position? := by
  rw [found?_succ, lookup?, lookup?_tableOf h]
  cases covering? (lines.getD line []) column with
  | none => rfl
  | some s => exact congrArg some (position?_token s)

/-- **Decoding undoes encoding.** The document whose mappings encode some sorted lines is printed
as a text of a map.  Every such text, however it is laid out, is loaded, and the map answers a
position with the segment that covers it on its line, or not at all if every segment of the line
comes later.  In any session of the journal the answer is the same, but if there is none the journal
is told, and the query fails if that does. -/
theorem resolve_encoded (lines : List (List (Segment sources names)))
    (hlines : ∀ line ∈ lines, Ordered line) :
    IsMapText (Json.print (mapDocument sources names (encode lines))) sources names
        (encode lines) ∧
      ∀ (path : Option Text) (t : Text), IsMapText t sources names (encode lines) →
        ∃ m, load path t = .ok m ∧ ∀ line column : Nat,
          (∀ s, Covers (lines.getD line []) column s →
            m.resolve (line + 1) column = s.position? ∧
            ∀ session name, m.resolveIn session name (line + 1) column = .ok s.position?) ∧
          ((∀ s ∈ lines.getD line [], column < s.column) →
            m.resolve (line + 1) column = none ∧
            ∀ session name, m.resolveIn session name (line + 1) column =
              (session.emit (unmappedEvent name (line + 1) column)).map fun _ => none) := by
  refine ⟨isMapText_print sources names (encode lines), ?_⟩
  intro path t ht
  refine ⟨_, load_of_isMapText ht path, ?_⟩
  intro line column
  have hfound := found?_tableOf hlines line column
  constructor
  · intro s hs
    rw [covering?_of_covers (ordered_getD hlines line) hs] at hfound
    refine ⟨?_, fun session name => ?_⟩
    · rw [resolve_eq_join, hfound]
      rfl
    · rw [resolveIn_succ, hfound]
      rfl
  · intro hlater
    rw [covering?_eq_none hlater] at hfound
    refine ⟨?_, fun session name => ?_⟩
    · rw [resolve_eq_join, hfound]
      rfl
    · rw [resolveIn_succ, hfound]
      rfl

/-- Lines with a segment for generated code only, two segments at one column, and a line without
segments. -/
def overlaid : List (List (Segment ["a.js".toList, "b.js".toList] ["f".toList, []])) :=
  [[⟨0, none⟩, ⟨4, some ⟨⟨1, by decide⟩, 10, 2, some ⟨0, by decide⟩⟩⟩,
    ⟨4, some ⟨⟨0, by decide⟩, 3, 0, some ⟨1, by decide⟩⟩⟩], [],
    [⟨7, some ⟨⟨1, by decide⟩, 0, 5, some ⟨0, by decide⟩⟩⟩]]

theorem resolve_encoded_overlaid :
    (∀ line ∈ overlaid, Ordered line) ∧
      ∃ m, load none (Json.print (mapDocument ["a.js".toList, "b.js".toList] ["f".toList, []]
          (encode overlaid))) = .ok m ∧
        m.resolve 1 3 = none ∧ m.resolve 1 9 = some ⟨.text "a.js".toList, 4, 0, none⟩ ∧
        m.resolve 2 5 = none ∧ m.resolve 3 6 = none ∧
        m.resolve 3 7 = some ⟨.text "b.js".toList, 1, 5, some "f".toList⟩ := by
  have hordered : ∀ line ∈ overlaid, Ordered line := by decide
  obtain ⟨htext, hall⟩ := resolve_encoded overlaid hordered
  obtain ⟨m, hload, hresolve⟩ := hall none _ htext
  refine ⟨hordered, m, hload, ?_, ?_, ?_, ?_, ?_⟩
  · exact ((hresolve 0 3).1 _ ⟨[], _, rfl, by decide, by decide, by decide⟩).1
  · exact ((hresolve 0 9).1 _ ⟨[_, _], [], rfl, by decide, by decide, by decide⟩).1
  · exact ((hresolve 1 5).2 (by decide)).1
  · exact ((hresolve 2 6).2 (by decide)).1
  · exact ((hresolve 2 7).1 _ ⟨[], _, rfl, by decide, by decide, by decide⟩).1

end Retrace.SourceMap
