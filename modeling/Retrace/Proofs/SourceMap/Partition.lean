import Mathlib.Data.List.Find
import Retrace.Proofs.SourceMap.Regular
import Retrace.Proofs.SourceMap.Sections

/-!
# Maps in parts

The lines of a map are cut at some of their segments, and each part becomes a section of an index
map: its lines are counted from the cut on, and so are the columns of its first line.
`lookup_parts` says that a position is answered in its section as it is in the whole.

A part has no segment before its cut.  Nothing is lost with them, because the part starts with a
segment, which covers the rest of the line (`covering?_partLine`).
-/

namespace Retrace.SourceMap

variable {sources names : List Text}

/-! ## Cuts -/

/-- A generated position where a part starts, its line counted from zero. -/
structure Cut where
  line : Nat
  column : Nat
deriving DecidableEq

namespace Cut

/-- Whether a cut is at or before a position. -/
def startsBy (cut : Cut) (line column : Nat) : Bool :=
  cut.line < line || (cut.line = line && cut.column ≤ column)

/-- A cut is before another. -/
def Before (cut next : Cut) : Prop :=
  cut.line < next.line ∨ cut.line = next.line ∧ cut.column < next.column

instance (cut next : Cut) : Decidable (cut.Before next) :=
  inferInstanceAs (Decidable (_ ∨ _ ∧ _))

lemma startsBy_iff {cut : Cut} {line column : Nat} :
    cut.startsBy line column = true ↔
      cut.line < line ∨ cut.line = line ∧ cut.column ≤ column := by
  simp [startsBy]

end Cut

/-- Cuts of lines: the first at the start, and each later one at a segment and after the one
before it. -/
structure IsCutting (lines : List (List (Segment sources names))) (cuts : List Cut) : Prop where
  first : cuts.head? = some ⟨0, 0⟩
  increasing : cuts.Pairwise Cut.Before
  atSegments : ∀ cut ∈ cuts.tail, ∃ s ∈ lines.getD cut.line [], s.column = cut.column

/-! ## Parts -/

/-- Whether a position lies in the part from a cut up to the next one, if there is a next one. -/
def within (start : Cut) (stop : Option Cut) (line column : Nat) : Bool :=
  start.startsBy line column && stop.all fun next => !next.startsBy line column

/-- A segment of a line, seen from the start of a part. -/
def Segment.seenFrom (start : Cut) (line : Nat) (s : Segment sources names) :
    Segment sources names :=
  if line = start.line then { s with column := s.column - start.column } else s

/-- The segments of a line that lie in a part, seen from its start. -/
def partLine (start : Cut) (stop : Option Cut) (line : Nat)
    (segments : List (Segment sources names)) : List (Segment sources names) :=
  (segments.filter fun s => within start stop line s.column).map (Segment.seenFrom start line)

/-- The lines up to that of a cut, if there is one. -/
def linesUpTo (lines : List (List (Segment sources names))) :
    Option Cut → List (List (Segment sources names))
  | none => lines
  | some next => lines.take (next.line + 1)

/-- The lines of a part, from the one it starts on to the one it stops on. -/
def slice (lines : List (List (Segment sources names))) (start : Cut) (stop : Option Cut) :
    List (List (Segment sources names)) :=
  ((linesUpTo lines stop).drop start.line).mapIdx fun k segments =>
    partLine start stop (start.line + k) segments

/-- A part of a map: where it starts, and its lines from there on. -/
structure Part (sources names : List Text) where
  start : Cut
  lines : List (List (Segment sources names))

/-- The parts of lines between cuts, the last one to the end. -/
def parts (lines : List (List (Segment sources names))) : List Cut → List (Part sources names)
  | [] => []
  | cut :: cuts => ⟨cut, slice lines cut cuts.head?⟩ :: parts lines cuts

/-! ## Lines of a part -/

lemma within_iff {start : Cut} {stop : Option Cut} {line column : Nat} :
    within start stop line column = true ↔
      start.startsBy line column = true ∧
        ∀ next ∈ stop, ¬ next.startsBy line column = true := by
  cases stop <;> simp [within]

lemma Cut.startsBy_mono {cut : Cut} {line column later : Nat}
    (h : cut.startsBy line column = true) (hle : column ≤ later) :
    cut.startsBy line later = true := by
  rw [startsBy_iff] at h ⊢
  omega

lemma Segment.seenFrom_column (start : Cut) (line : Nat) (s : Segment sources names) :
    (s.seenFrom start line).column =
      if line = start.line then s.column - start.column else s.column := by
  rw [seenFrom]
  split <;> rfl

@[simp] lemma Segment.position?_seenFrom (start : Cut) (line : Nat) (s : Segment sources names) :
    (s.seenFrom start line).position? = s.position? := by
  rw [seenFrom]
  split <;> rfl

lemma ordered_partLine {segments : List (Segment sources names)} (h : Ordered segments)
    (start : Cut) (stop : Option Cut) (line : Nat) :
    Ordered (partLine start stop line segments) := by
  refine List.pairwise_map.2 ((List.Pairwise.filter _ h).imp ?_)
  intro s u hle
  rw [Segment.seenFrom_column, Segment.seenFrom_column]
  split <;> omega

lemma partLine_eq_nil {start next : Cut} {line : Nat} (h : next.line < line)
    (segments : List (Segment sources names)) :
    partLine start (some next) line segments = [] := by
  have hfilter : segments.filter (fun s => within start (some next) line s.column) = [] := by
    rw [List.filter_eq_nil_iff]
    intro s hs hin
    refine (within_iff.1 hin).2 next rfl ?_
    rw [Cut.startsBy_iff]
    exact Or.inl h
  rw [partLine, hfilter]
  rfl

lemma getD_slice (lines : List (List (Segment sources names))) (start : Cut) (stop : Option Cut)
    (k : Nat) :
    (slice lines start stop).getD k [] =
      partLine start stop (start.line + k) (lines.getD (start.line + k) []) := by
  have hnil (line : Nat) : partLine start stop line ([] : List (Segment sources names)) = [] := rfl
  rw [slice, List.getD_eq_getElem?_getD, List.getD_eq_getElem?_getD, List.getElem?_mapIdx,
    List.getElem?_drop]
  cases stop with
  | none =>
    rw [linesUpTo]
    cases lines[start.line + k]? <;> rfl
  | some next =>
    rw [linesUpTo]
    by_cases hk : start.line + k < next.line + 1
    · rw [List.getElem?_take_of_lt hk]
      cases lines[start.line + k]? <;> rfl
    · rw [List.getElem?_take_eq_none (by omega), partLine_eq_nil (by omega)]
      rfl

lemma ordered_slice {lines : List (List (Segment sources names))}
    (h : ∀ line ∈ lines, Ordered line) (start : Cut) (stop : Option Cut) :
    ∀ line ∈ slice lines start stop, Ordered line := by
  intro line hline
  obtain ⟨k, hk⟩ := List.mem_iff_getElem?.1 hline
  have hget : (slice lines start stop).getD k [] = line := by
    rw [List.getD_eq_getElem?_getD, hk]
    rfl
  rw [← hget, getD_slice]
  exact ordered_partLine (ordered_getD h _) start stop _

/-! ## Covering in a part -/

lemma le_of_covering? {line : List (Segment sources names)} {column : Nat}
    {s : Segment sources names} (h : covering? line column = some s) : s.column ≤ column := by
  simpa using List.find?_some h

lemma column_le_of_covering? {line : List (Segment sources names)} (hline : Ordered line)
    {column : Nat} {s u : Segment sources names} (h : covering? line column = some s)
    (hu : u ∈ line) (hle : u.column ≤ column) : u.column ≤ s.column := by
  obtain ⟨-, after, before, hsplit, hafter⟩ := List.find?_eq_some_iff_append.1 h
  have hline' : line = before.reverse ++ s :: after.reverse := by
    have := congrArg List.reverse hsplit
    simpa using this
  rw [hline'] at hline hu
  rcases List.mem_append.1 hu with hu | hu
  · exact (List.pairwise_append.1 hline).2.2 u hu s List.mem_cons_self
  · rcases List.mem_cons.1 hu with rfl | hu
    · exact le_refl _
    · have := hafter u (List.mem_reverse.1 hu)
      simp only [Bool.not_eq_true', decide_eq_false_iff_not] at this
      exact absurd hle this

lemma find?_and_of_found {α : Type} {p q : α → Bool} {xs : List α}
    (h : ∀ x ∈ xs.find? p, q x = true) : xs.find? (fun x => q x && p x) = xs.find? p := by
  induction xs with
  | nil => rfl
  | cons x xs ih =>
    by_cases hp : p x = true
    · have hq : q x = true := h x (by simp [hp])
      simp [hp, hq]
    · rw [List.find?_cons_of_neg hp] at h ⊢
      rw [List.find?_cons_of_neg (by simp [hp]), ih h]

/-- Where a part starts, it has a segment, or no segment of the line is before it. -/
def StartsAt (lines : List (List (Segment sources names))) (cut : Cut) : Prop :=
  cut.column = 0 ∨ ∃ s ∈ lines.getD cut.line [], s.column = cut.column

/-- A position of a part is covered there by the segment that covers it in the whole. -/
lemma covering?_partLine {lines : List (List (Segment sources names))}
    (hlines : ∀ line ∈ lines, Ordered line) {start : Cut} (hstart : StartsAt lines start)
    {stop : Option Cut} {line column : Nat} (h : within start stop line column = true) :
    covering? (partLine start stop line (lines.getD line []))
        (if line = start.line then column - start.column else column) =
      (covering? (lines.getD line []) column).map (Segment.seenFrom start line) := by
  obtain ⟨hby, hstop⟩ := within_iff.1 h
  have hfound : ∀ s ∈ covering? (lines.getD line []) column,
      within start stop line s.column = true := by
    intro s hs
    have hle := le_of_covering? hs
    refine within_iff.2 ⟨?_, fun next hnext hin => hstop next hnext (Cut.startsBy_mono hin hle)⟩
    rw [Cut.startsBy_iff] at hby ⊢
    rcases hby with hlater | ⟨rfl, hcolumn⟩
    · exact Or.inl hlater
    refine Or.inr ⟨rfl, ?_⟩
    rcases hstart with hzero | ⟨u, hu, hcut⟩
    · omega
    · have := column_le_of_covering? (ordered_getD hlines start.line) hs hu (by omega)
      omega
  have hpred (s : Segment sources names) :
      (within start stop line s.column && decide ((s.seenFrom start line).column ≤
        if line = start.line then column - start.column else column)) =
      (within start stop line s.column && decide (s.column ≤ column)) := by
    by_cases hin : within start stop line s.column = true
    · have hsby := (within_iff.1 hin).1
      rw [Cut.startsBy_iff] at hby hsby
      rw [hin, Bool.true_and, Bool.true_and, Segment.seenFrom_column, decide_eq_decide]
      split <;> omega
    · simp [hin]
  rw [covering?, partLine, ← List.map_reverse, List.find?_map, ← List.filter_reverse,
    List.find?_filter]
  congr 1
  rw [covering?, ← find?_and_of_found hfound]
  refine List.find?_congr fun s hs => ?_
  rw [← hpred s]
  simp

/-! ## Look-up in sections -/

/-- The section that a part is loaded as. -/
def Part.loaded (p : Part sources names) : Section :=
  ⟨p.start.line, p.start.column, tableOf p.lines⟩

lemma Part.startsBy_loaded (p : Part sources names) (line column : Nat) :
    p.loaded.startsBy line column = p.start.startsBy line column := by
  rw [Bool.eq_iff_iff, Section.startsBy_iff, Cut.startsBy_iff]
  simp only [Part.loaded]
  omega

lemma Part.lookup?_loaded (p : Part sources names) (line column : Nat) :
    p.loaded.lookup? line column =
      (tableOf p.lines).lookup? (line - p.start.line)
        (if line = p.start.line then column - p.start.column else column) := by
  have hline : ((line : Int) - p.start.line).toNat = line - p.start.line := by omega
  have hcolumn : ((column : Int) - p.start.column).toNat = column - p.start.column := by omega
  change (tableOf p.lines).lookup? ((line : Int) - p.start.line).toNat
    (if (line : Int) = p.start.line then (column : Int) - p.start.column else column).toNat = _
  rw [hline]
  by_cases hfirst : line = p.start.line
  · have hfirst' : (line : Int) = p.start.line := by omega
    rw [if_pos hfirst, if_pos hfirst', hcolumn]
  · have hfirst' : ¬ (line : Int) = p.start.line := by omega
    rw [if_neg hfirst, if_neg hfirst', Int.toNat_natCast]

/-- A section answers for the positions of its part. -/
lemma lookup?_loaded {lines : List (List (Segment sources names))}
    (hlines : ∀ line ∈ lines, Ordered line) {start : Cut} (hstart : StartsAt lines start)
    {stop : Option Cut} {line column : Nat} (h : within start stop line column = true) :
    ((Part.loaded ⟨start, slice lines start stop⟩).lookup? line column).map Token.position? =
      (covering? (lines.getD line []) column).map Segment.position? := by
  have hby := (within_iff.1 h).1
  rw [Cut.startsBy_iff] at hby
  have hline : start.line + (line - start.line) = line := by omega
  have hcovering := covering?_partLine hlines hstart h
  have hslice := getD_slice lines start stop (line - start.line)
  rw [hline] at hslice
  rw [← hslice] at hcovering
  rw [Part.lookup?_loaded, lookup?_tableOf (ordered_slice hlines start stop), hcovering]
  cases covering? (lines.getD line []) column with
  | none => rfl
  | some s =>
    have hseen := position?_token (s.seenFrom start line)
    rw [Segment.position?_seenFrom] at hseen
    exact congrArg some hseen

/-- **Parts answer as the whole.** The section that a position belongs to answers as the lines
that the parts were cut from. -/
theorem lookup_parts {lines : List (List (Segment sources names))}
    (hlines : ∀ line ∈ lines, Ordered line) {cut : Cut} {cuts : List Cut}
    (hstarts : ∀ next ∈ cut :: cuts, StartsAt lines next) {line column : Nat}
    (hcut : cut.startsBy line column = true) :
    ((sectionAt? ((parts lines (cut :: cuts)).map Part.loaded) line column).bind fun s =>
        s.lookup? line column).map Token.position? =
      (covering? (lines.getD line []) column).map Segment.position? := by
  induction cuts generalizing cut with
  | nil =>
    have hin : within cut none line column = true := within_iff.2 ⟨hcut, by simp⟩
    have hat : sectionAt? ((parts lines [cut]).map Part.loaded) line column =
        some (Part.loaded ⟨cut, slice lines cut none⟩) :=
      sectionAt?_cons_of_last (by rw [Part.startsBy_loaded]; exact hcut) (by simp [parts])
    rw [hat]
    exact lookup?_loaded hlines (hstarts cut List.mem_cons_self) hin
  | cons next cuts ih =>
    have hfirst : (Part.loaded ⟨cut, slice lines cut (some next)⟩).startsBy line column = true := by
      rw [Part.startsBy_loaded]
      exact hcut
    by_cases hnext : next.startsBy line column = true
    · have hat : sectionAt? ((parts lines (cut :: next :: cuts)).map Part.loaded) line column =
          sectionAt? ((parts lines (next :: cuts)).map Part.loaded) line column :=
        sectionAt?_cons_of_later hfirst (by rw [Part.startsBy_loaded]; exact hnext)
      rw [hat]
      exact ih (fun later hlater => hstarts later (List.mem_cons_of_mem cut hlater)) hnext
    · have hin : within cut (some next) line column = true :=
        within_iff.2 ⟨hcut, by simpa using hnext⟩
      have hat : sectionAt? ((parts lines (cut :: next :: cuts)).map Part.loaded) line column =
          some (Part.loaded ⟨cut, slice lines cut (some next)⟩) := by
        refine sectionAt?_cons_of_last hfirst ?_
        intro later hlater
        obtain rfl := Option.some.inj hlater
        rw [Part.startsBy_loaded]
        exact hnext
      rw [hat]
      exact lookup?_loaded hlines (hstarts cut List.mem_cons_self) hin

end Retrace.SourceMap
