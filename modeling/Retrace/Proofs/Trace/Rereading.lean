import Retrace.Proofs.Trace.Layout
import Retrace.Proofs.Trace.Shapes

/-!
# The printed trace is read back

The line of a mapped frame, without its indent, is again a frame line: `printed` says of which
printed frame.  Without a name it has the shape of a file and is read back as it was printed
(`FrameLine.read?_of_fileAt`).  With a name it has the shape of a symbol in a file, and the symbol
is read as far as it can go: name and source come back exactly if no mark between a symbol and a
file comes up in the source as it is shown (`FrameLine.read?_of_symbolInFile`).  Such a mark in the
name does no harm, and the position comes back in any case.
-/

namespace Retrace

/-! ## Printed frames with a file -/

namespace FrameLine

lemma partsUnder?_of_parts? {f : PrintedFrame} (h : f.Legible) {q : FrameParts}
    (hq : f.shape.parts? f.text = some q) : partsUnder? Shape.all f.text = some q := by
  have hall (s : Shape) : s ∈ Shape.all := by cases s <;> decide
  rw [partsUnder?, body?_of_lineFeed_not_mem (PrintedFrame.lineFeed_not_mem_text h)]
  exact Shape.findSome?_parts?_of_mem (hall f.shape) hq

/-- A frame that is printed with a file only is read back with it. -/
lemma read?_of_fileAt {f : PrintedFrame} (h : f.Legible) (hshape : f.shape = .fileAt) :
    read? f.text = .ok (some ⟨none, f.line, f.column, some f.file⟩) := by
  have hparts := Shape.parts?_fileAt_written f.numbered_parts
  rw [← hshape] at hparts
  exact read?_of_partsUnder? h (partsUnder?_of_parts? h hparts) rfl rfl

/-- A frame that is printed with a symbol and a file is read back with those of the last cut between
them. -/
lemma read?_of_splitLast? {f : PrintedFrame} (h : f.Legible) (hshape : f.shape = .symbolInFile)
    {name file : Text}
    (hcut : Text.splitLast? " (".toList (f.name ++ " (".toList ++ f.file) = some (name, file)) :
    read? f.text =
      .ok (some ⟨if name.isEmpty then none else some name, f.line, f.column, some file⟩) := by
  have hparts := Shape.parts?_symbolInFile_of_splitLast? f.numbered_parts hcut
  rw [← hshape] at hparts
  exact read?_of_partsUnder? h (partsUnder?_of_parts? h hparts) rfl rfl

/-- The mark between a symbol and a file is the last one if there is none in the file. -/
lemma splitLast?_symbol_iff (name file : Text) :
    Text.splitLast? " (".toList (name ++ " (".toList ++ file) = some (name, file) ↔
      ¬ " (".toList <:+: file := by
  have htail : " (".toList <:+: '(' :: file ↔ " (".toList <:+: file := by
    rw [List.infix_cons_iff, or_iff_right]
    intro hlead
    exact absurd (List.cons_prefix_cons.1 hlead).1 (by decide)
  rw [Text.splitLast?_append_iff (by decide)]
  exact not_congr htail

/-- A frame that is printed with a symbol and a file is read back with both of them exactly if no
mark between the two comes up in the file. -/
lemma read?_of_symbolInFile {f : PrintedFrame} (h : f.Legible) (hshape : f.shape = .symbolInFile)
    (hname : f.name ≠ []) :
    read? f.text = .ok (some ⟨some f.name, f.line, f.column, some f.file⟩) ↔
      ¬ " (".toList <:+: f.file := by
  have hcut : (Text.splitLast? " (".toList (f.name ++ " (".toList ++ f.file)).isSome = true :=
    Text.splitLast?_isSome_append (by decide) f.name f.file
  obtain ⟨⟨name, file⟩, hcut⟩ := Option.isSome_iff_exists.1 hcut
  rw [read?_of_splitLast? h hshape hcut, ← splitLast?_symbol_iff f.name f.file, hcut]
  simp only [Except.ok.injEq, Option.some.injEq, FrameLine.mk.injEq, Prod.mk.injEq, true_and]
  constructor
  · rintro ⟨hsame, rfl⟩
    split at hsame
    · cases hsame
    · exact ⟨Option.some.inj hsame, rfl⟩
  · rintro ⟨rfl, rfl⟩
    simp [hname]

end FrameLine

/-! ## Mapped frames -/

namespace Trace

/-- The printed frame that the line of a mapped frame shows. -/
def printed (stem source : Text) (name : Option Text) (line column : Nat) : PrintedFrame :=
  match name with
  | none | some [] => ⟨.fileAt, [], shortened stem source, line, column⟩
  | some name => ⟨.symbolInFile, name, shortened stem source, line, column⟩

lemma mappedLine_eq_printed (stem source : Text) (name : Option Text) (line column : Nat) :
    mappedLine name (shortened stem source) (Numeral.digits line) (Numeral.digits column) =
      indent ++ (printed stem source name line column).text := by
  rcases name with _ | _ | ⟨c, name⟩ <;>
    simp [mappedLine, printed, PrintedFrame.text, PrintedFrame.parts, Shape.written, Shape.opening,
      FrameParts.position]

lemma lineFeed_not_mem_shortened {source : Text} (h : '\n' ∉ source) (stem : Text) :
    '\n' ∉ shortened stem source := by
  unfold shortened
  split
  · exact h
  · split
    · next rest hrest =>
      rw [Text.eq_append_of_dropLead? hrest, List.mem_append, not_or] at h
      simpa using h.2
    · exact h

lemma legible_printed {stem source : Text} {name : Option Text} {line column : Nat}
    (hsource : '\n' ∉ source) (hname : ∀ t ∈ name, '\n' ∉ t)
    (hline : (Numeral.digits line).length ≤ Numeral.digitLimit)
    (hcolumn : (Numeral.digits column).length ≤ Numeral.digitLimit) :
    (printed stem source name line column).Legible := by
  have hshown := lineFeed_not_mem_shortened hsource stem
  rcases name with _ | _ | ⟨c, name⟩
  · exact ⟨List.not_mem_nil, hshown, hline, hcolumn⟩
  · exact ⟨List.not_mem_nil, hshown, hline, hcolumn⟩
  · exact ⟨hname _ rfl, hshown, hline, hcolumn⟩

/-- **Round trip.** The line of a mapped frame, without its indent, is read back as a frame at its
position.  Its file is the source as it is shown and its name that of the frame, exactly if the
frame has no name or the mark between a symbol and a file does not come up in the source as it is
shown. -/
theorem read?_mapped {source : Text} {name : Option Text} {line column : Nat}
    (hsource : '\n' ∉ source) (hname : ∀ t ∈ name, '\n' ∉ t)
    (hline : (Numeral.digits line).length ≤ Numeral.digitLimit)
    (hcolumn : (Numeral.digits column).length ≤ Numeral.digitLimit) (stem raw : Text) :
    ∃ shown, entryLine stem (.frame ⟨some (.text source), some line, some column, name, raw⟩) =
        .ok (indent ++ shown) ∧
      (∃ f, FrameLine.read? shown = .ok (some f) ∧ f.line = line ∧ f.column = column) ∧
      (FrameLine.read? shown = .ok (some
          ⟨name.filter (!·.isEmpty), line, column, some (shortened stem source)⟩) ↔
        ∀ t ∈ name, t ≠ [] → ¬ " (".toList <:+: shortened stem source) := by
  have hlegible : (printed stem source name line column).Legible :=
    legible_printed hsource hname hline hcolumn
  refine ⟨(printed stem source name line column).text, ?_, ?_, ?_⟩
  · have hrun := entryLine_mapped (Int.natAbs_natCast line ▸ hline)
      (Int.natAbs_natCast column ▸ hcolumn) stem source raw name
    rw [hrun, Numeral.signedDigits_natCast, Numeral.signedDigits_natCast, mappedLine_eq_printed]
  · obtain ⟨f, hf, hfline, hfcolumn⟩ := FrameLine.read?_printed hlegible
    rcases name with _ | _ | ⟨c, name⟩ <;> exact ⟨f, hf, hfline, hfcolumn⟩
  · rcases name with _ | _ | ⟨c, name⟩
    · exact iff_of_true (FrameLine.read?_of_fileAt hlegible rfl) (by simp)
    · exact iff_of_true (FrameLine.read?_of_fileAt hlegible rfl) (by simp)
    · rw [Option.filter_some_pos (by simp)]
      have hread := FrameLine.read?_of_symbolInFile hlegible rfl (by simp [printed])
      exact hread.trans (by simp [printed])

/-- The mark between a symbol and a file comes up in the name, and in the stem that is cut. -/
theorem read?_mapped_marked :
    ∃ shown, entryLine "src (1)/".toList (.frame ⟨some (.text "src (1)/a@7:8.js".toList),
          some (12 : Nat), some (0 : Nat), some "new (f@3:4".toList, []⟩) = .ok (indent ++ shown) ∧
      FrameLine.read? shown =
        .ok (some ⟨some "new (f@3:4".toList, 12, 0, some "./a@7:8.js".toList⟩) := by
  have hsource : '\n' ∉ "src (1)/a@7:8.js".toList := by decide
  have hname : ∀ t ∈ some "new (f@3:4".toList, '\n' ∉ t := by decide
  have hline : (Numeral.digits 12).length ≤ Numeral.digitLimit := by decide
  have hcolumn : (Numeral.digits 0).length ≤ Numeral.digitLimit := by decide
  obtain ⟨shown, hshown, -, hread⟩ :=
    read?_mapped hsource hname hline hcolumn "src (1)/".toList []
  refine ⟨shown, hshown, hread.2 ?_⟩
  intro t _ _
  decide

end Trace

end Retrace
