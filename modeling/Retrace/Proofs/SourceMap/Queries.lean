import Retrace.Proofs.Journal.Events
import Retrace.Proofs.Numeral
import Retrace.Proofs.SourceMap.Governing
import Retrace.Proofs.Trace.Shapes
import Retrace.SourceMap.Query

/-!
# Queries of any size

A map is asked for a position by whole numbers of any sign and size.  `SourceMap.answer` follows a
query to where it can go wrong: look-up in the table that it is delegated to may go astray, and the
event that tells the journal of a position that nothing covers may be at fault.

On a map that is loaded, no query gets negative and no look-up goes astray, so that only the journal
can fail (`answer_eq_resolve`).  In a plain session that takes a number with more digits than are
written, and that events of the least level are not left out, as they are not where there are no
settings (`not_answered_far`).  The numbers of a frame line are never that long, so the reading of a
trace asks for positions without regard to the journal (`resolveIn_of_read?`).
-/

namespace Retrace.SourceMap

open Journal (Session EventFault)

variable {m : SourceMap} {s : Session} {name : Option Text} {line column : Int}

/-! ## Queries that can go wrong -/

/-- Why a query is not answered. -/
inductive QueryFault
  /-- Look-up has gone astray. -/
  | astray
  | journal (f : EventFault)
deriving DecidableEq, Repr

/-- The position in the sources of a generated one, asked for in a session under a name.  That
nothing covers the position makes it unmapped, which the journal is told. -/
def answer (m : SourceMap) (s : Session) (name : Option Text) (line column : Int) :
    Except QueryFault (Option Position) :=
  let unmapped : Except QueryFault (Option Position) :=
    ((s.emit (unmappedEvent name line column)).map fun _ => none).mapError .journal
  if isPosition line column then
    match m.delegate? (line - 1) column with
    | none => unmapped
    | some q =>
      match q.table.fetch q.line q.column with
      | .ok token => .ok (token.origin.bind Origin.position?)
      | .error .uncovered => unmapped
      | .error .astray => .error .astray
  else .ok none

/-! ## The event -/

lemma longNumber?_int_iff {n : Int} : (Json.int n).longNumber? = none ↔ Numeral.Writable n := by
  rw [Json.longNumber?, Numeral.Writable]
  split
  · next h => exact iff_of_false (by simp) (Nat.not_le.2 h)
  · next h => exact iff_of_true rfl (Nat.le_of_not_lt h)

/-- In a plain session all that the event shows can be written if its numbers can. -/
lemma short_unmappedEvent_iff (hs : s.Bland) (name : Option Text) (line column : Int) :
    Journal.Short (unmappedEvent name line column)
        (s.carried? (unmappedEvent name line column)) ↔
      Numeral.Writable line ∧ Numeral.Writable column := by
  rw [← longNumber?_int_iff, ← longNumber?_int_iff]
  constructor
  · intro hshort
    have hleft : ∀ key ∈ ["line".toList, "column".toList],
        key ∉ Journal.programNames ∧ ∀ carried : Text → Option Json,
          ¬ Journal.LeftOut (unmappedEvent name line column) carried key := by
      intro key hkey
      have hapart : ∀ key ∈ ["line".toList, "column".toList], key ∉ Journal.programNames ∧
          key ∉ [Journal.momentField, Journal.callsRequest, Journal.exceptionRequest] ∧
          key ≠ Journal.argumentsField ∧ key ≠ Journal.callsField := by decide
      obtain ⟨hname, hasks, harguments, hcalls⟩ := hapart key hkey
      exact ⟨hname, fun carried h => h.elim hasks (Or.rec (harguments ·.1) (hcalls ·.1))⟩
    have hline := hleft _ List.mem_cons_self
    have hcolumn := hleft _ (List.mem_cons_of_mem _ List.mem_cons_self)
    exact ⟨hshort _ _ ⟨hline.1, hline.2 _, rfl⟩, hshort _ _ ⟨hcolumn.1, hcolumn.2 _, rfl⟩⟩
  · rintro ⟨hline, hcolumn⟩ key v hshows
    rcases Option.or_eq_some_iff.1 hshows.carried_eq with hown | ⟨-, hcontext⟩
    · have hmem := List.mem_reverse.1 (Json.mem_of_field? hown)
      simp only [unmappedEvent, List.mem_cons, List.not_mem_nil, or_false, Prod.mk.injEq] at hmem
      rcases hmem with ⟨-, rfl⟩ | ⟨-, rfl⟩ | ⟨-, rfl⟩
      · exact hline
      · exact hcolumn
      · cases name <;> rfl
    · exact hs.short _ (Json.mem_of_field? hcontext)

lemma not_misnamed_unmappedEvent (name : Option Text) (line column : Int) :
    ¬ (unmappedEvent name line column).Misnamed := by
  have hnames : ∀ key ∈ ["line".toList, "column".toList, "name".toList],
      key ∉ Journal.reservedNames := by decide
  rintro ⟨field, hfield, hreserved⟩
  exact hnames field.1 (List.mem_map_of_mem (f := Prod.fst) hfield) hreserved

/-- In a plain session the event is at fault if it is not left out and has a number that is too
long. -/
lemma exists_emit_unmappedEvent_iff (hs : s.Bland) (name : Option Text) (line column : Int) :
    (∃ w, s.emit (unmappedEvent name line column) = .ok w) ↔
      s.Quiet .debug ∨ Numeral.Writable line ∧ Numeral.Writable column := by
  rw [← short_unmappedEvent_iff hs name]
  refine hs.exists_emit_iff (not_misnamed_unmappedEvent name line column) ?_ rfl
  have hnames : ∀ key ∈ ["line".toList, "column".toList, "name".toList],
      key ∉ Journal.askingNames := by decide
  exact fun field hfield => hnames field.1 (List.mem_map_of_mem (f := Prod.fst) hfield)

/-- A session that leaves out events of the level is not at fault over the event. -/
lemma exists_emit_unmappedEvent_of_quiet (hs : s.Quiet .debug) (name : Option Text)
    (line column : Int) : ∃ w, s.emit (unmappedEvent name line column) = .ok w := by
  obtain ⟨settings, hsettings, hlevel⟩ := hs
  have hbelow : s.writes (unmappedEvent name line column).level = false := by
    rw [Session.writes, hsettings]
    exact decide_eq_false (Nat.not_le.2 hlevel)
  refine ⟨.nothing, ?_⟩
  rw [Session.emit,
    if_neg fun h => not_misnamed_unmappedEvent name line column (Session.misnamed_iff.1 h)]
  simp only [hsettings, hbelow, Bool.not_false, if_true]

/-! ## Answers in a session -/

lemma resolve_of_uncovered (h : m.uncovered line column = true) : m.resolve line column = none := by
  rw [uncovered, Bool.and_eq_true, Option.isNone_iff_eq_none] at h
  rw [resolve, h.2]
  rfl

/-- An answer in a session is the one that the map resolves to. -/
lemma eq_resolve_of_resolveIn {p : Option Position}
    (h : m.resolveIn s name line column = .ok p) : p = m.resolve line column := by
  unfold resolveIn at h
  split at h
  · next huncovered =>
    obtain ⟨-, -, rfl⟩ := map_eq_ok_iff.1 h
    exact (resolve_of_uncovered huncovered).symm
  · exact (Except.ok.inj h).symm

/-- An answer fails to come only over the event of a position that nothing covers. -/
lemma exists_resolveIn_eq_error_iff :
    (∃ f, m.resolveIn s name line column = .error f) ↔ m.uncovered line column = true ∧
      ¬ ∃ w, s.emit (unmappedEvent name line column) = .ok w := by
  unfold resolveIn
  split
  · next huncovered =>
    rw [and_iff_right huncovered]
    cases s.emit (unmappedEvent name line column) with
    | error f => exact iff_of_true ⟨f, rfl⟩ (by simp)
    | ok w => exact iff_of_false nofun (by simp)
  · next huncovered => exact iff_of_false nofun fun h => huncovered h.1

lemma resolveIn_of_emit (h : ∃ w, s.emit (unmappedEvent name line column) = .ok w) :
    m.resolveIn s name line column = .ok (m.resolve line column) := by
  cases hanswer : m.resolveIn s name line column with
  | error f => exact absurd h (exists_resolveIn_eq_error_iff.1 ⟨f, hanswer⟩).2
  | ok p => rw [eq_resolve_of_resolveIn hanswer]

/-! ## Queries after loading -/

/-- What a loaded map finds for a position of generated code, it finds where it delegates it to. -/
lemma answer_eq_resolveIn {path : Option Text} {t : Text} (h : load path t = .ok m) (s : Session)
    (name : Option Text) (line column : Int) :
    m.answer s name line column = (m.resolveIn s name line column).mapError .journal := by
  rw [answer, resolveIn, uncovered, resolve]
  by_cases hposition : isPosition line column = true
  · obtain ⟨n, k, rfl, rfl⟩ := exists_of_isPosition hposition
    have hn : (n : Int) + 1 - 1 = n := by omega
    rw [if_pos hposition, hposition, Bool.true_and, hn, token?_succ, lookup?_eq_delegate? h]
    cases hq : m.delegate? n k with
    | none => rfl
    | some q =>
      obtain ⟨hqline, hqcolumn⟩ := delegate?_nonneg (by omega) (by omega) hq
      have hfetch := q.table.fetch_natCast q.line.toNat q.column.toNat
      rw [Int.toNat_of_nonneg hqline, Int.toNat_of_nonneg hqcolumn] at hfetch
      simp only [hfetch, Option.bind_some]
      cases q.table.lookup? q.line.toNat q.column.toNat with
      | none => rfl
      | some token => rfl
  · have hnone : m.token? line column = none := by rw [token?, if_neg hposition]
    rw [if_neg hposition, hnone, Bool.eq_false_iff.2 hposition, Bool.false_and]
    rfl

/-- **Queries after loading.** Whatever a map was loaded from and whatever the position, the query
that it is delegated to is not negative, and no look-up goes astray: in a session of the journal the
map answers as it resolves, or the journal fails.  It does not if the position is covered or events
of the least level are left out; in a plain session it does in no other case than that a number of
the query is too long. -/
theorem answer_eq_resolve {path : Option Text} {t : Text} {m : SourceMap}
    (h : load path t = .ok m) (line column : Int) :
    (∀ q, isPosition line column = true → m.delegate? (line - 1) column = some q →
      0 ≤ q.line ∧ 0 ≤ q.column) ∧
    ∀ (s : Session) (name : Option Text),
      m.answer s name line column = (m.resolveIn s name line column).mapError .journal ∧
      (∀ p, m.resolveIn s name line column = .ok p → p = m.resolve line column) ∧
      (m.uncovered line column = false ∨ s.Quiet .debug →
        m.answer s name line column = .ok (m.resolve line column)) ∧
      (s.Bland → ((∃ f, m.answer s name line column = .error f) ↔
        m.uncovered line column = true ∧ ¬ s.Quiet .debug ∧
          ¬ (Numeral.Writable line ∧ Numeral.Writable column))) := by
  constructor
  · intro q hposition hq
    obtain ⟨hline, hcolumn⟩ := isPosition_iff.1 hposition
    exact delegate?_nonneg (by omega) hcolumn hq
  intro s name
  have hanswer := answer_eq_resolveIn h s name line column
  refine ⟨hanswer, fun p hp => eq_resolve_of_resolveIn hp, ?_, fun hs => ?_⟩
  · rw [hanswer]
    rintro (hcovered | hquiet)
    · rw [resolveIn, hcovered]
      rfl
    · rw [resolveIn_of_emit (exists_emit_unmappedEvent_of_quiet hquiet name line column)]
      rfl
  · have hfault : (∃ f, m.answer s name line column = .error f) ↔
        ∃ f, m.resolveIn s name line column = .error f := by
      rw [hanswer]
      cases m.resolveIn s name line column with
      | error f => exact iff_of_true ⟨_, rfl⟩ ⟨f, rfl⟩
      | ok p => exact iff_of_false nofun nofun
    rw [hfault, exists_resolveIn_eq_error_iff, exists_emit_unmappedEvent_iff hs, not_or]

/-! ### Sections out of order -/

theorem answer_eq_resolve_overhanging :
    load none overhangingText = .ok overhanging ∧
      overhanging.answer {} none 1 7 = .ok (some ⟨.text "a.js".toList, 1, 0, none⟩) ∧
      overhanging.answer { settings := some {} } none 2 1 = .ok none ∧
      overhanging.answer {} none 2 5 = .ok (some ⟨.text "b.js".toList, 1, 0, none⟩) ∧
      overhanging.answer {} none (-1) (-3) = .ok none ∧
      ¬ ∃ f, overhanging.answer {} none 2 1 = .error f := by
  have hquiet : ({ settings := some {} } : Session).Quiet .debug := ⟨_, rfl, by decide⟩
  have hwritable : Numeral.Writable 2 ∧ Numeral.Writable 1 := by
    unfold Numeral.Writable
    decide
  refine ⟨load_overhangingText, ?_, ?_, ?_, ?_, ?_⟩
  · exact ((answer_eq_resolve load_overhangingText 1 7).2 {} none).2.2.1 (Or.inl rfl)
  · exact ((answer_eq_resolve load_overhangingText 2 1).2 _ none).2.2.1 (Or.inr hquiet)
  · exact ((answer_eq_resolve load_overhangingText 2 5).2 {} none).2.2.1 (Or.inl rfl)
  · exact ((answer_eq_resolve load_overhangingText (-1) (-3)).2 {} none).2.2.1 (Or.inl rfl)
  · rw [((answer_eq_resolve load_overhangingText 2 1).2 {} none).2.2.2 Session.bland_empty]
    exact fun h => h.2.2 hwritable

/-! ### A line that is too far -/

/-- The text of a map without mappings. -/
def emptyText : Text := "\x7b\"sources\":[],\"names\":[],\"mappings\":\"\"\x7d".toList

/-- The least line whose number has too many digits. -/
def farLine : Nat := 10 ^ Numeral.digitLimit

lemma not_writable_farLine : ¬ Numeral.Writable farLine := by
  rw [Numeral.Writable, Int.natAbs_natCast, farLine, Numeral.length_digits_ten_pow]
  omega

/-- Without settings, a map without mappings does not answer for a line that is too far, although it
resolves it as unmapped. -/
theorem not_answered_far :
    ∃ m, load none emptyText = .ok m ∧ m.resolve farLine 0 = none ∧
      ∃ f, m.answer {} none farLine 0 = .error f := by
  have hload : load none emptyText = .ok (.regular [[]]) := by cbv
  have hpositive : 1 < farLine := Nat.one_lt_pow (by decide) (by decide)
  have hposition : isPosition farLine 0 = true := isPosition_iff.2 (by omega)
  have hnone : (SourceMap.regular [[]]).token? farLine 0 = none := by
    have hline : ([[]] : Table)[((farLine : Int) - 1).toNat]? = none :=
      List.getElem?_eq_none (by rw [List.length_singleton]; omega)
    rw [token?, if_pos hposition, lookup?, Table.lookup?, hline]
    rfl
  have huncovered : (SourceMap.regular [[]]).uncovered farLine 0 = true := by
    rw [uncovered, hposition, hnone]
    rfl
  refine ⟨_, hload, resolve_of_uncovered huncovered, ?_⟩
  have hloud : ¬ ({} : Session).Quiet .debug := by
    rintro ⟨settings, ⟨⟩, -⟩
  have hfault : ∃ f, (SourceMap.regular [[]]).resolveIn {} none farLine 0 = .error f := by
    rw [exists_resolveIn_eq_error_iff, exists_emit_unmappedEvent_iff Session.bland_empty, not_or]
    exact ⟨huncovered, hloud, fun h => not_writable_farLine h.1⟩
  obtain ⟨f, hf⟩ := hfault
  refine ⟨.journal f, ?_⟩
  rw [answer_eq_resolveIn hload, hf]
  rfl

/-! ## The positions of frame lines -/

/-- **Frame lines.** In every plain session the position of a frame line that is read is answered. -/
theorem resolveIn_of_read? {t : Text} {f : FrameLine} (h : FrameLine.read? t = .ok (some f))
    (hs : s.Bland) (m : SourceMap) :
    m.resolveIn s f.name f.line f.column = .ok (m.resolve f.line f.column) := by
  unfold FrameLine.read? FrameLine.readUnder? at h
  split at h
  · cases h
  · next p hparts =>
    obtain ⟨shape, hfits, -⟩ := FrameLine.partsUnder?_all_eq_some_iff.1 hparts
    obtain ⟨g, hread, hg⟩ := map_eq_ok_iff.1 h
    obtain rfl := Option.some.inj hg
    obtain ⟨line, hline, hread⟩ := bind_eq_ok_iff.1 hread
    obtain ⟨column, hcolumn, hpure⟩ := bind_eq_ok_iff.1 hread
    obtain rfl := Except.ok.inj hpure
    have hnumbered := hfits.fits.numbered
    refine resolveIn_of_emit ((exists_emit_unmappedEvent_iff hs _ _ _).2 (Or.inr ⟨?_, ?_⟩))
    · exact Numeral.writable_of_read hnumbered.line_digits hline
    · exact Numeral.writable_of_read hnumbered.column_digits hcolumn

end Retrace.SourceMap
