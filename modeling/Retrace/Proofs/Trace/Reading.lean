import Retrace.Proofs.Trace.FrameLine
import Retrace.Trace.Reading

/-!
# What a trace is read as

A line is a frame, or no shape fits it, or a shape fits it and one of its numbers is too long to be
read (`FrameLine.line_cases`).  The reading of a trace gets past frames, and past a message in the
first place; `Trace.Passed` says so of the first lines of a trace.

`Trace.entries_append` is the run lemma: lines that are passed give one entry each, whatever comes
after them.  `Trace.entries_cases` lists the four ways in which the reading of a trace ends, and
`Trace.entries_documented_iff` derives from it when the reading ends in entries or in a stray line,
and that otherwise it ends in a number that is too long.
-/

namespace Retrace

/-! ## The three kinds of lines -/

namespace FrameLine

/-- A line that is read as a frame. -/
def IsFrame (t : Text) : Prop := ∃ f, read? t = .ok (some f)

/-- A line that no shape fits. -/
def Unshaped (t : Text) : Prop := partsUnder? Shape.all t = none

/-- The number of digits of the first number of a line that is too long to be read, for a line
that a shape fits. -/
def overlong? (t : Text) : Option Nat :=
  (partsUnder? Shape.all t).bind fun p =>
    [p.line.length, p.column.length].find? (Numeral.digitLimit < ·)

lemma read?_of_unshaped {t : Text} (h : Unshaped t) : read? t = .ok none := by
  have hparts : partsUnder? Shape.all t = none := h
  simp only [read?, readUnder?, hparts]

lemma read?_of_overlong {t : Text} {n : Nat} (h : overlong? t = some n) :
    read? t = .error (.tooLongToRead n) := by
  obtain ⟨p, hp, hfind⟩ := Option.bind_eq_some_iff.1 h
  simp only [read?, readUnder?, hp, ofParts, Numeral.read]
  by_cases hline : Numeral.digitLimit < p.line.length
  · rw [List.find?_cons_of_pos (by simpa using hline), Option.some.injEq] at hfind
    rw [if_pos hline, hfind]
    rfl
  · rw [List.find?_cons_of_neg (by simpa using hline)] at hfind
    by_cases hcolumn : Numeral.digitLimit < p.column.length
    · rw [List.find?_cons_of_pos (by simpa using hcolumn), Option.some.injEq] at hfind
      rw [if_neg hline, if_pos hcolumn, hfind]
      rfl
    · simp [hcolumn] at hfind

lemma isFrame_of_overlong?_eq_none {t : Text} (hshaped : ¬ Unshaped t)
    (h : overlong? t = none) : IsFrame t := by
  obtain ⟨p, hp⟩ := Option.ne_none_iff_exists'.1 hshaped
  simp only [overlong?, hp, Option.bind_some, List.find?_eq_none, List.mem_cons,
    List.not_mem_nil, or_false, decide_eq_true_eq, forall_eq_or_imp, forall_eq] at h
  have hread {ds : Text} (hds : ¬ Numeral.digitLimit < ds.length) :
      Numeral.read ds = .ok (Numeral.value ds) := by rw [Numeral.read, if_neg hds]
  refine ⟨⟨if p.name.isEmpty then none else some p.name, Numeral.value p.line,
    Numeral.value p.column, p.file⟩, ?_⟩
  simp only [read?, readUnder?, hp, ofParts, hread h.1, hread h.2]
  rfl

/-- Every line is a frame, or no shape fits it, or one of its numbers is too long. -/
theorem line_cases (t : Text) : IsFrame t ∨ Unshaped t ∨ ∃ n, overlong? t = some n := by
  by_cases hshaped : Unshaped t
  · exact Or.inr (Or.inl hshaped)
  · cases hover : overlong? t with
    | none => exact Or.inl (isFrame_of_overlong?_eq_none hshaped hover)
    | some n => exact Or.inr (Or.inr ⟨n, rfl⟩)

lemma unshaped_nil : Unshaped [] := rfl

end FrameLine

namespace Trace

open FrameLine (IsFrame Unshaped overlong?)

/-! ## One step -/

variable (m : SourceMap)

/-- The entry of a line that is passed: its frame, or the line itself. -/
def entryOf (line : Text) : Entry :=
  match FrameLine.read? line with
  | .ok (some f) => frameEntry m f line
  | _ => .verbatim line

lemma entryOf_of_unshaped {line : Text} (h : Unshaped line) : entryOf m line = .verbatim line := by
  rw [entryOf, FrameLine.read?_of_unshaped h]

lemma step_of_isFrame (state : State) (index : Nat) {line : Text} (h : IsFrame line) :
    step m state index line = .ok (.inFrames, some (entryOf m line)) := by
  obtain ⟨f, hf⟩ := h
  simp only [step, entryOf, hf]

lemma step_of_overlong (state : State) (index : Nat) {line : Text} {n : Nat}
    (h : overlong? line = some n) :
    step m state index line = .error (.numeral (.tooLongToRead n)) := by
  simp only [step, FrameLine.read?_of_overlong h]

lemma step_awaiting_of_unshaped (index : Nat) {line : Text} (h : Unshaped line) :
    step m .awaiting index line = .ok (.inFrames, some (entryOf m line)) := by
  simp only [step, FrameLine.read?_of_unshaped h, entryOf_of_unshaped m h]

lemma step_inFrames_nil (index : Nat) : step m .inFrames index [] = .ok (.done, none) := by
  simp [step, FrameLine.read?_of_unshaped FrameLine.unshaped_nil]

lemma step_inFrames_of_unshaped (index : Nat) {line : Text} (h : Unshaped line)
    (hne : line ≠ []) : step m .inFrames index line = .error (.strayLine (index + 1) line) := by
  simp [step, FrameLine.read?_of_unshaped h, hne]

/-! ## Many steps -/

lemma entriesFrom_of_step {state : State} {index : Nat} {line : Text} {e : Entry}
    (h : step m state index line = .ok (.inFrames, some e)) (lines : List Text) :
    entriesFrom m state index (line :: lines) =
      (entriesFrom m .inFrames (index + 1) lines).map (e :: ·) := by
  rw [entriesFrom, h]
  simp only [Option.toList_some, List.singleton_append]
  cases entriesFrom m .inFrames (index + 1) lines <;> rfl

lemma entriesFrom_of_step_error {state : State} {index : Nat} {line : Text} {e : Fault}
    (h : step m state index line = .error e) (lines : List Text) :
    entriesFrom m state index (line :: lines) = .error e := by
  rw [entriesFrom, h]

lemma entriesFrom_blank (index : Nat) (lines : List Text) :
    entriesFrom m .inFrames index ([] :: lines) = .ok [] := by
  rw [entriesFrom, step_inFrames_nil]
  rfl

lemma entriesFrom_frames {before : List Text} (h : ∀ line ∈ before, IsFrame line)
    (index : Nat) (lines : List Text) :
    entriesFrom m .inFrames index (before ++ lines) =
      (entriesFrom m .inFrames (index + before.length) lines).map
        (before.map (entryOf m) ++ ·) := by
  induction before generalizing index with
  | nil =>
    simp only [List.nil_append, List.map_nil, List.length_nil, Nat.add_zero]
    cases entriesFrom m .inFrames index lines <;> rfl
  | cons line before ih =>
    have hstep := step_of_isFrame m .inFrames index (h line (by simp))
    have hrest := ih (fun l hl => h l (by simp [hl])) (index + 1)
    have hindex : index + 1 + before.length = index + (line :: before).length := by
      simp only [List.length_cons]
      omega
    rw [List.cons_append, entriesFrom_of_step m hstep, hrest, hindex]
    cases entriesFrom m .inFrames (index + (line :: before).length) lines <;> rfl

/-- The reading of a trace gets past its first lines: they are frames, apart from a message in the
first place. -/
def Passed : List Text → Prop
  | [] => True
  | first :: rest => (IsFrame first ∨ Unshaped first) ∧ ∀ line ∈ rest, IsFrame line

/-- **Run lemma.** Lines that are passed give one entry each, and the reading goes on among the
frames. -/
theorem entries_append {before : List Text} (hne : before ≠ []) (h : Passed before)
    (lines : List Text) :
    entries m (before ++ lines) =
      (entriesFrom m .inFrames before.length lines).map (before.map (entryOf m) ++ ·) := by
  obtain ⟨first, rest, rfl⟩ := List.exists_cons_of_ne_nil hne
  have hstep : step m .awaiting 0 first = .ok (.inFrames, some (entryOf m first)) := by
    rcases h.1 with hframe | hother
    · exact step_of_isFrame m .awaiting 0 hframe
    · exact step_awaiting_of_unshaped m 0 hother
  have hlength : 0 + 1 + rest.length = (first :: rest).length := by
    simp only [List.length_cons]
    omega
  rw [entries, List.cons_append, entriesFrom_of_step m hstep, entriesFrom_frames m h.2, hlength]
  cases entriesFrom m .inFrames (first :: rest).length lines <;> rfl

lemma entries_of_passed {lines : List Text} (h : Passed lines) :
    entries m lines = .ok (lines.map (entryOf m)) := by
  by_cases hne : lines = []
  · rw [hne]
    rfl
  · have hrun := entries_append m hne h []
    rw [List.append_nil] at hrun
    rw [hrun]
    simp [entriesFrom, Except.map]

lemma entries_of_blank {before : List Text} (hne : before ≠ []) (h : Passed before)
    (after : List Text) :
    entries m (before ++ [] :: after) = .ok (before.map (entryOf m)) := by
  rw [entries_append m hne h, entriesFrom_blank]
  simp [Except.map]

lemma entries_of_stray {before : List Text} (hne : before ≠ []) (h : Passed before)
    {line : Text} (hline : Unshaped line) (hblank : line ≠ []) (after : List Text) :
    entries m (before ++ line :: after) = .error (.strayLine (before.length + 1) line) := by
  rw [entries_append m hne h,
    entriesFrom_of_step_error m (step_inFrames_of_unshaped m _ hline hblank)]
  rfl

lemma entries_of_overlong {before : List Text} (h : Passed before) {line : Text} {n : Nat}
    (hline : overlong? line = some n) (after : List Text) :
    entries m (before ++ line :: after) = .error (.numeral (.tooLongToRead n)) := by
  by_cases hne : before = []
  · rw [hne, List.nil_append, entries,
      entriesFrom_of_step_error m (step_of_overlong m .awaiting 0 hline)]
  · rw [entries_append m hne h, entriesFrom_of_step_error m (step_of_overlong m _ _ hline)]
    rfl

/-! ## How a reading ends -/

/-- The lines of a trace are passed up to a line that is not, or to the end. -/
lemma passed_or_stops (lines : List Text) :
    Passed lines ∨ ∃ before line after, lines = before ++ line :: after ∧ Passed before ∧
      ¬ Passed (before ++ [line]) := by
  induction lines using List.reverseRecOn with
  | nil => exact Or.inl trivial
  | append_singleton lines last ih =>
    rcases ih with hpassed | ⟨before, line, after, rfl, hbefore, hstop⟩
    · by_cases hlast : Passed (lines ++ [last])
      · exact Or.inl hlast
      · exact Or.inr ⟨lines, last, [], rfl, hpassed, hlast⟩
    · exact Or.inr ⟨before, line, after ++ [last], by simp, hbefore, hstop⟩

lemma passed_concat {before : List Text} (hne : before ≠ []) {line : Text} :
    Passed (before ++ [line]) ↔ Passed before ∧ IsFrame line := by
  obtain ⟨first, rest, rfl⟩ := List.exists_cons_of_ne_nil hne
  simp only [List.cons_append, Passed, List.mem_append, List.mem_singleton]
  constructor
  · rintro ⟨hfirst, hrest⟩
    exact ⟨⟨hfirst, fun l hl => hrest l (Or.inl hl)⟩, hrest line (Or.inr rfl)⟩
  · rintro ⟨⟨hfirst, hrest⟩, hline⟩
    refine ⟨hfirst, ?_⟩
    rintro l (hl | rfl)
    · exact hrest l hl
    · exact hline

/-- The four ways in which the reading of a trace ends: with the last line, at an empty line, at a
stray line, and at a number that is too long. -/
theorem entries_cases (lines : List Text) :
    (Passed lines ∧ entries m lines = .ok (lines.map (entryOf m))) ∨
    (∃ before after, lines = before ++ [] :: after ∧ before ≠ [] ∧ Passed before ∧
      entries m lines = .ok (before.map (entryOf m))) ∨
    (∃ before line after, lines = before ++ line :: after ∧ before ≠ [] ∧ Passed before ∧
      line ≠ [] ∧ Unshaped line ∧
      entries m lines = .error (.strayLine (before.length + 1) line)) ∨
    (∃ before line after n, lines = before ++ line :: after ∧ Passed before ∧
      overlong? line = some n ∧ entries m lines = .error (.numeral (.tooLongToRead n))) := by
  rcases passed_or_stops lines with hpassed | ⟨before, line, after, rfl, hbefore, hstop⟩
  · exact Or.inl ⟨hpassed, entries_of_passed m hpassed⟩
  right
  rcases FrameLine.line_cases line with hframe | hother | ⟨n, hover⟩
  · -- a frame is passed in every place
    refine absurd ?_ hstop
    by_cases hne : before = []
    · rw [hne]
      exact ⟨Or.inl hframe, by simp⟩
    · exact (passed_concat hne).2 ⟨hbefore, hframe⟩
  · have hne : before ≠ [] := by
      rintro rfl
      exact hstop ⟨Or.inr hother, by simp⟩
    by_cases hblank : line = []
    · rw [hblank]
      exact Or.inl ⟨before, after, rfl, hne, hbefore, entries_of_blank m hne hbefore after⟩
    · exact Or.inr (Or.inl ⟨before, line, after, rfl, hne, hbefore, hblank, hother,
        entries_of_stray m hne hbefore hother hblank after⟩)
  · exact Or.inr (Or.inr ⟨before, line, after, n, rfl, hbefore, hover,
      entries_of_overlong m hbefore hover after⟩)

/-- The entries of a trace are those of its first lines. -/
lemma exists_of_entries {m : SourceMap} {lines : List Text} {es : List Entry}
    (h : entries m lines = .ok es) :
    ∃ before after, lines = before ++ after ∧ es = before.map (entryOf m) := by
  rcases entries_cases m lines with ⟨-, hrun⟩ | ⟨before, after, hlines, -, -, hrun⟩ |
    ⟨_, _, _, -, -, -, -, -, hrun⟩ | ⟨_, _, _, _, -, -, -, hrun⟩
  · exact ⟨lines, [], (List.append_nil lines).symm, Except.ok.inj (h.symm.trans hrun)⟩
  · exact ⟨before, [] :: after, hlines, Except.ok.inj (h.symm.trans hrun)⟩
  · cases h.symm.trans hrun
  · cases h.symm.trans hrun

/-- The outcomes that a reading is documented to have: entries, or a stray line. -/
def Documented (outcome : Except Fault (List Entry)) : Prop :=
  (∃ es, outcome = .ok es) ∨ ∃ number line, outcome = .error (.strayLine number line)

lemma not_documented_numeral (f : Numeral.Fault) : ¬ Documented (.error (.numeral f)) := by
  rintro (⟨es, h⟩ | ⟨number, line, h⟩)
  · simp at h
  · simp at h

/-- **Documented outcomes.** A reading ends in entries or in a stray line exactly if every line that
it gets to has numbers that can be read.  From a line with a number that is too long it ends in
that number. -/
theorem entries_documented_iff (lines : List Text) :
    (Documented (entries m lines) ↔
      ∀ before line after, lines = before ++ line :: after → Passed before →
        overlong? line = none) ∧
    ∀ before line after n, lines = before ++ line :: after → Passed before →
      overlong? line = some n → entries m lines = .error (.numeral (.tooLongToRead n)) := by
  have hstop : ∀ before line after n, lines = before ++ line :: after → Passed before →
      overlong? line = some n → entries m lines = .error (.numeral (.tooLongToRead n)) := by
    rintro before line after n rfl hbefore hover
    exact entries_of_overlong m hbefore hover after
  refine ⟨⟨fun hdocumented before line after hlines hbefore => ?_, fun hreadable => ?_⟩, hstop⟩
  · cases hover : overlong? line with
    | none => rfl
    | some n =>
      rw [hstop before line after n hlines hbefore hover] at hdocumented
      exact absurd hdocumented (not_documented_numeral _)
  · rcases entries_cases m lines with ⟨-, hrun⟩ | ⟨before, after, -, -, -, hrun⟩ |
      ⟨before, line, after, -, -, -, -, -, hrun⟩ |
      ⟨before, line, after, n, hlines, hbefore, hover, -⟩
    · exact Or.inl ⟨_, hrun⟩
    · exact Or.inl ⟨_, hrun⟩
    · exact Or.inr ⟨_, _, hrun⟩
    · simp [hreadable before line after hlines hbefore] at hover

lemma overlong?_symbol (ds : Text) (hds : ∀ c ∈ ds, c.isDigit = true)
    (h : Numeral.digitLimit < ds.length) :
    overlong? ('@' :: (ds ++ ":0".toList)) = some ds.length := by
  let p : FrameParts := { name := [], file := none, line := ds, column := ['0'] }
  have hne : ds ≠ [] := List.ne_nil_of_length_pos (by omega)
  have hp : p.Numbered := ⟨hne, hds, by simp [p], by simp [p]⟩
  have hwritten : '@' :: (ds ++ ":0".toList) = Shape.written .symbolAt p := rfl
  have hline : '\n' ∉ Shape.written .symbolAt p := by
    have hfeed : '\n' ∉ ds := fun hfeed => absurd (hds _ hfeed) (by decide)
    simp [p, Shape.written, FrameParts.position, hfeed]
  obtain ⟨q, hq, hqline, -⟩ := FrameLine.partsUnder?_written hp hline
  rw [hwritten, overlong?, hq, Option.bind_some, hqline]
  exact List.find?_cons_of_pos (by simpa using h)

/-- A symbol at a line number of 4301 digits makes a reading end in no documented way, here in a map
without mappings. -/
theorem not_documented_overlong_symbol :
    SourceMap.load none "\x7b\"sources\":[],\"names\":[],\"mappings\":\"\"\x7d".toList =
      .ok (.regular [[]]) ∧
    ¬ Documented (entries (.regular [[]]) ['@' :: (List.replicate 4301 '1' ++ ":0".toList)]) := by
  refine ⟨by cbv, ?_⟩
  have hdigits : ∀ c ∈ List.replicate 4301 '1', c.isDigit = true := by
    intro c hc
    rw [List.eq_of_mem_replicate hc]
    rfl
  have hlength : Numeral.digitLimit < (List.replicate 4301 '1').length := by
    rw [List.length_replicate]
    decide
  have hover := overlong?_symbol _ hdigits hlength
  have hpassed : Passed [] := trivial
  have hrun := entries_of_overlong (.regular [[]]) hpassed hover []
  rw [List.nil_append] at hrun
  rw [hrun]
  exact not_documented_numeral _

end Trace

end Retrace
