import Retrace.Proofs.Numeral
import Retrace.Proofs.Text.Cutting
import Retrace.Trace.FrameLine

/-!
# Printed frames are read back

`Shape.written` prints the parts of a frame in a shape, and `PrintedFrame.text` does so for a frame
with numbers.  A name or a file may contain every mark that a shape uses, so a line can be cut in
several ways and a shape may find another name than the printed one.  The position is found all the
same (`read?_printed`), because it is the last thing that the shapes print and no shape that is
tried earlier fits (`partsUnder?_written`).
-/

namespace Retrace

/-! ## Digits at the end of a text -/

namespace FrameParts

/-- The line and the column of a frame are written as digits. -/
structure Numbered (p : FrameParts) : Prop where
  line_ne_nil : p.line ≠ []
  line_digits : ∀ c ∈ p.line, c.isDigit = true
  column_ne_nil : p.column ≠ []
  column_digits : ∀ c ∈ p.column, c.isDigit = true

/-- The position of a frame as it is written. -/
def position (p : FrameParts) : Text := p.line ++ ':' :: p.column

lemma splitDigits?_append {ds : Text} (hne : ds ≠ []) (hds : ∀ c ∈ ds, c.isDigit = true)
    {c : Char} (hc : c.isDigit = false) (before : Text) :
    splitDigits? (before ++ c :: ds) = some (before ++ [c], ds) := by
  have hreverse : (before ++ c :: ds).reverse = ds.reverse ++ c :: before.reverse := by simp
  have hall : ∀ d ∈ ds.reverse, d.isDigit = true := fun d hd => hds d (List.mem_reverse.1 hd)
  have htake : (before ++ c :: ds).reverse.takeWhile Char.isDigit = ds.reverse := by
    rw [hreverse, List.takeWhile_append_of_pos hall, List.takeWhile_cons_of_neg (by simp [hc]),
      List.append_nil]
  have hdrop : (before ++ c :: ds).reverse.dropWhile Char.isDigit = c :: before.reverse := by
    rw [hreverse, List.dropWhile_append_of_pos hall, List.dropWhile_cons_of_neg (by simp [hc])]
  simp only [splitDigits?, htake, hdrop, List.reverse_reverse]
  rw [if_neg (by simp [hne])]
  simp

lemma splitDigits?_concat {c : Char} (hc : c.isDigit = false) (t : Text) :
    splitDigits? (t ++ [c]) = none := by
  simp [splitDigits?, hc]

lemma dropEnd?_concat (c : Char) (t : Text) : dropEnd? c (t ++ [c]) = some t := by
  simp [dropEnd?]

lemma dropEnd?_concat_of_ne {c d : Char} (h : d ≠ c) (t : Text) :
    dropEnd? c (t ++ [d]) = none := by
  simp [dropEnd?, h]

lemma splitPosition?_append {p : FrameParts} (hp : p.Numbered) {c : Char}
    (hc : c.isDigit = false) (before : Text) :
    splitPosition? (before ++ c :: p.position) = some (before ++ [c], p.line, p.column) := by
  have hcolumn : splitDigits? (before ++ c :: p.position)
      = some (before ++ c :: p.line ++ [':'], p.column) := by
    have := splitDigits?_append hp.column_ne_nil hp.column_digits (c := ':') rfl
      (before ++ c :: p.line)
    simpa [position] using this
  have hcolon : dropEnd? ':' (before ++ c :: p.line ++ [':']) = some (before ++ c :: p.line) :=
    dropEnd?_concat ':' _
  have hline := splitDigits?_append hp.line_ne_nil hp.line_digits hc before
  simp only [splitPosition?, hcolumn, Option.bind_eq_bind, Option.bind_some, hcolon, hline]
  rfl

lemma splitPosition?_concat {c : Char} (hc : c.isDigit = false) (t : Text) :
    splitPosition? (t ++ [c]) = none := by
  simp [splitPosition?, splitDigits?_concat hc]

end FrameParts

/-! ## The shapes as printers -/

namespace Shape

open FrameParts

/-- The parts of a frame as they are written in a shape.  The first shape has no place for a file
and the second none for a name. -/
def written : Shape → FrameParts → Text
  | .symbolAt, p => p.name ++ '@' :: p.position
  | .fileAt, p => opening ++ p.file.getD [] ++ ':' :: p.position
  | .symbolInFile, p =>
    opening ++ p.name ++ " (".toList ++ p.file.getD [] ++ ':' :: p.position ++ [')']

lemma parts?_symbolAt_written {p : FrameParts} (hp : p.Numbered) :
    parts? .symbolAt (written .symbolAt p) =
      some { name := p.name, file := none, line := p.line, column := p.column } := by
  have hposition := splitPosition?_append hp (c := '@') rfl p.name
  simp [parts?, written, hposition, dropEnd?_concat]

lemma parts?_fileAt_written {p : FrameParts} (hp : p.Numbered) :
    parts? .fileAt (written .fileAt p) =
      some { name := [], file := some (p.file.getD []), line := p.line, column := p.column } := by
  have hposition := splitPosition?_append hp (c := ':') rfl (opening ++ p.file.getD [])
  rw [written, parts?, hposition]
  simp [Text.dropLead?_append, dropEnd?_concat]

/-- The symbol and the file that are found are those of the last cut between them. -/
lemma parts?_symbolInFile_of_splitLast? {p : FrameParts} (hp : p.Numbered) {name file : Text}
    (hcut : Text.splitLast? " (".toList (p.name ++ " (".toList ++ p.file.getD []) =
      some (name, file)) :
    parts? .symbolInFile (written .symbolInFile p) =
      some { name, file := some file, line := p.line, column := p.column } := by
  have hposition := splitPosition?_append hp (c := ':') rfl
    (opening ++ (p.name ++ " (".toList ++ p.file.getD []))
  have hwritten : written .symbolInFile p =
      (opening ++ (p.name ++ " (".toList ++ p.file.getD []) ++ ':' :: p.position) ++ [')'] := by
    simp [written]
  rw [hwritten, parts?, dropEnd?_concat, Option.bind_eq_bind, Option.bind_some, hposition]
  simp only [Option.bind_eq_bind, Option.bind_some, List.append_assoc, Text.dropLead?_append]
  simp only [← List.append_assoc, dropEnd?_concat, Option.bind_some, hcut]
  rfl

lemma parts?_symbolInFile_written {p : FrameParts} (hp : p.Numbered) :
    ∃ name file, parts? .symbolInFile (written .symbolInFile p) =
      some { name, file := some file, line := p.line, column := p.column } := by
  have hcut : (Text.splitLast? " (".toList (p.name ++ " (".toList ++ p.file.getD [])).isSome :=
    Text.splitLast?_isSome_append (by simp) p.name (p.file.getD [])
  obtain ⟨⟨name, file⟩, hcut⟩ := Option.isSome_iff_exists.1 hcut
  exact ⟨name, file, parts?_symbolInFile_of_splitLast? hp hcut⟩

/-! ## The first shape that fits -/

/-- A line printed with a file ends in two numbers, but what stands before them is no name. -/
lemma parts?_symbolAt_written_fileAt {p : FrameParts} (hp : p.Numbered) :
    parts? .symbolAt (written .fileAt p) = none := by
  have hposition := splitPosition?_append hp (c := ':') rfl (opening ++ p.file.getD [])
  have hat := dropEnd?_concat_of_ne (c := '@') (d := ':') (by decide) (opening ++ p.file.getD [])
  simp only [written, parts?, hposition, Option.bind_eq_bind, Option.bind_some, hat,
    Option.bind_none]

lemma parts?_concat_eq_none {shape : Shape} (h : shape ≠ .symbolInFile) {c : Char}
    (hc : c.isDigit = false) (t : Text) : parts? shape (t ++ [c]) = none := by
  cases shape with
  | symbolAt => simp [parts?, splitPosition?_concat hc]
  | fileAt => simp [parts?, splitPosition?_concat hc]
  | symbolInFile => exact absurd rfl h

/-- Whatever the name and the file, the first shape that fits a printed frame finds its
position. -/
lemma findSome?_parts?_written {p : FrameParts} (hp : p.Numbered) (shape : Shape) :
    ∃ q, all.findSome? (·.parts? (written shape p)) = some q ∧
      q.line = p.line ∧ q.column = p.column := by
  cases shape with
  | symbolAt =>
    refine ⟨⟨p.name, none, p.line, p.column⟩, ?_, rfl, rfl⟩
    rw [all, List.findSome?_cons, parts?_symbolAt_written hp]
  | fileAt =>
    refine ⟨⟨[], some (p.file.getD []), p.line, p.column⟩, ?_, rfl, rfl⟩
    rw [all, List.findSome?_cons, parts?_symbolAt_written_fileAt hp, List.findSome?_cons,
      parts?_fileAt_written hp]
  | symbolInFile =>
    obtain ⟨name, file, hparts⟩ := parts?_symbolInFile_written hp
    have hnone {shape : Shape} (h : shape ≠ .symbolInFile) :
        parts? shape (written .symbolInFile p) = none := parts?_concat_eq_none h rfl _
    refine ⟨⟨name, some file, p.line, p.column⟩, ?_, rfl, rfl⟩
    rw [all, List.findSome?_cons, hnone (by simp), List.findSome?_cons, hnone (by simp),
      List.findSome?_cons, hparts]

end Shape

/-! ## Printed frames -/

/-- A frame that an engine prints in a shape.  The name or the file is not printed where the shape
has no place for it. -/
structure PrintedFrame where
  shape : Shape
  name : Text
  file : Text
  line : Nat
  column : Nat
deriving DecidableEq, Repr

namespace PrintedFrame

/-- The parts of a printed frame. -/
def parts (f : PrintedFrame) : FrameParts where
  name := f.name
  file := some f.file
  line := Numeral.digits f.line
  column := Numeral.digits f.column

/-- The line that is printed for a frame. -/
def text (f : PrintedFrame) : Text := f.shape.written f.parts

/-- A frame that is printed on one line, with numbers that can be read. -/
structure Legible (f : PrintedFrame) : Prop where
  name_no_lineFeed : '\n' ∉ f.name
  file_no_lineFeed : '\n' ∉ f.file
  line_length_le : (Numeral.digits f.line).length ≤ Numeral.digitLimit
  column_length_le : (Numeral.digits f.column).length ≤ Numeral.digitLimit

instance (f : PrintedFrame) : Decidable f.Legible :=
  decidable_of_iff ('\n' ∉ f.name ∧ '\n' ∉ f.file ∧
      (Numeral.digits f.line).length ≤ Numeral.digitLimit ∧
      (Numeral.digits f.column).length ≤ Numeral.digitLimit)
    ⟨fun ⟨hname, hfile, hline, hcolumn⟩ => ⟨hname, hfile, hline, hcolumn⟩,
      fun ⟨hname, hfile, hline, hcolumn⟩ => ⟨hname, hfile, hline, hcolumn⟩⟩

lemma numbered_parts (f : PrintedFrame) : f.parts.Numbered where
  line_ne_nil := Numeral.digits_ne_nil f.line
  line_digits := fun _ => Numeral.isDigit_of_mem_digits
  column_ne_nil := Numeral.digits_ne_nil f.column
  column_digits := fun _ => Numeral.isDigit_of_mem_digits

lemma lineFeed_not_mem_position (f : PrintedFrame) : '\n' ∉ f.parts.position := by
  have hdigits (n : Nat) : '\n' ∉ Numeral.digits n := by
    intro h
    exact absurd (Numeral.isDigit_of_mem_digits h) (by decide)
  simp [FrameParts.position, parts, hdigits]

lemma lineFeed_not_mem_text {f : PrintedFrame} (h : f.Legible) : '\n' ∉ f.text := by
  have hposition := f.lineFeed_not_mem_position
  have hname := h.name_no_lineFeed
  have hfile := h.file_no_lineFeed
  have hopening : '\n' ∉ Shape.opening := by decide
  cases hshape : f.shape <;>
    simp only [text, hshape, Shape.written, List.mem_append, List.mem_cons, not_or]
  · exact ⟨hname, by decide, hposition⟩
  · exact ⟨⟨hopening, hfile⟩, by decide, hposition⟩
  · exact ⟨⟨⟨⟨⟨hopening, hname⟩, by decide⟩, hfile⟩, by decide, hposition⟩, by decide⟩

lemma text_ne_nil (f : PrintedFrame) : f.text ≠ [] := by
  cases hshape : f.shape <;> simp [text, hshape, Shape.written]

end PrintedFrame

/-! ## Reading -/

namespace FrameLine

lemma body?_of_lineFeed_not_mem {t : Text} (h : '\n' ∉ t) : body? t = some t := by
  have hlast : t.getLast? ≠ some '\n' := fun hlast => h (List.mem_of_getLast? hlast)
  have hbody : Text.dropFinalLineEnd t = t := by rw [Text.dropFinalLineEnd, if_neg hlast]
  simp only [body?, hbody, if_neg h]

lemma partsUnder?_written {p : FrameParts} (hp : p.Numbered) {shape : Shape}
    (h : '\n' ∉ shape.written p) :
    ∃ q, partsUnder? Shape.all (shape.written p) = some q ∧
      q.line = p.line ∧ q.column = p.column := by
  obtain ⟨q, hq, hline, hcolumn⟩ := Shape.findSome?_parts?_written hp shape
  refine ⟨q, ?_, hline, hcolumn⟩
  rw [partsUnder?, body?_of_lineFeed_not_mem h]
  exact hq

/-- A printed frame is read from the parts that are found of it, if their numbers are its own. -/
lemma read?_of_partsUnder? {f : PrintedFrame} (h : f.Legible) {q : FrameParts}
    (hparts : partsUnder? Shape.all f.text = some q) (hline : q.line = Numeral.digits f.line)
    (hcolumn : q.column = Numeral.digits f.column) :
    read? f.text =
      .ok (some ⟨if q.name.isEmpty then none else some q.name, f.line, f.column, q.file⟩) := by
  have hreadLine : Numeral.read q.line = .ok f.line := by
    rw [hline]
    exact Numeral.read_digits h.line_length_le
  have hreadColumn : Numeral.read q.column = .ok f.column := by
    rw [hcolumn]
    exact Numeral.read_digits h.column_length_le
  rw [read?, readUnder?, hparts]
  simp only [ofParts, hreadLine, hreadColumn]
  rfl

/-- **Round trip.** A printed frame is read as a frame at its position. -/
theorem read?_printed {f : PrintedFrame} (h : f.Legible) :
    ∃ g, read? f.text = .ok (some g) ∧ g.line = f.line ∧ g.column = f.column := by
  obtain ⟨q, hq, hline, hcolumn⟩ :=
    partsUnder?_written f.numbered_parts (PrintedFrame.lineFeed_not_mem_text h)
  exact ⟨_, read?_of_partsUnder? h hq hline hcolumn, rfl, rfl⟩

end FrameLine

end Retrace
