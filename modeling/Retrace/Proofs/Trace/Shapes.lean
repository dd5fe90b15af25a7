import Mathlib.Data.List.TakeWhile
import Retrace.Proofs.Trace.FrameLine

/-!
# The grammar of frame lines

`Shape.Fits` says as a grammar which texts have a shape, and with which parts.  The marks of a shape
may come up inside a name or a file, so the grammar leaves two questions open.  Can a text have two
shapes?  It cannot, because the position stands last and the character before it differs
(`Fits.shape_unique`, `Fits.position_unique`); so the order in which the shapes are tried does not
matter (`FrameLine.shapes_exclusive`).  And which parts does a text have?  Only a symbol and a file
can be told apart in several ways, and `Shape.parts?` finds the longest symbol
(`Shape.parts?_eq_some_iff`).

`FrameLine.read?_iff_fits` puts this together for the reading of lines.
-/

namespace Retrace

/-! ## Cuts from the end -/

namespace FrameParts

lemma of_splitDigits? {t before ds : Text} (h : splitDigits? t = some (before, ds)) :
    t = before ++ ds ∧ ds ≠ [] ∧ ∀ c ∈ ds, c.isDigit = true := by
  unfold splitDigits? at h
  dsimp only at h
  split at h
  · cases h
  · next hne =>
    obtain ⟨rfl, rfl⟩ := Prod.mk.inj (Option.some.inj h)
    refine ⟨?_, by simpa using hne, ?_⟩
    · rw [← List.reverse_append, List.takeWhile_append_dropWhile, List.reverse_reverse]
    · intro c hc
      exact List.mem_takeWhile_imp (List.mem_reverse.1 hc)

lemma eq_concat_of_dropEnd? {c : Char} {t before : Text} (h : dropEnd? c t = some before) :
    t = before ++ [c] := by
  unfold dropEnd? at h
  split at h
  · next hlast =>
    obtain rfl := Option.some.inj h
    obtain ⟨front, rfl⟩ := List.getLast?_eq_some_iff.1 hlast
    rw [List.dropLast_concat]
  · cases h

lemma of_splitPosition? {t before line column : Text}
    (h : splitPosition? t = some (before, line, column)) (name : Text) (file : Option Text) :
    t = before ++ position ⟨name, file, line, column⟩ ∧ Numbered ⟨name, file, line, column⟩ := by
  simp only [splitPosition?, Option.bind_eq_bind, Option.bind_eq_some_iff, Option.pure_def,
    Option.some.injEq, Prod.mk.injEq, Prod.exists] at h
  obtain ⟨t₁, _, hcolumn, t₂, hcolon, _, _, hline, rfl, rfl, rfl⟩ := h
  obtain ⟨rfl, hcolumnNe, hcolumnDigits⟩ := of_splitDigits? hcolumn
  obtain rfl := eq_concat_of_dropEnd? hcolon
  obtain ⟨rfl, hlineNe, hlineDigits⟩ := of_splitDigits? hline
  exact ⟨by simp [position], hlineNe, hlineDigits, hcolumnNe, hcolumnDigits⟩

/-- Of a text that ends in a position, the position and the character before it are known. -/
lemma position_inj {p q : FrameParts} (hp : p.Numbered) (hq : q.Numbered) {c d : Char}
    (hc : c.isDigit = false) (hd : d.isDigit = false) {before after : Text}
    (h : before ++ c :: p.position = after ++ d :: q.position) :
    before = after ∧ c = d ∧ p.line = q.line ∧ p.column = q.column := by
  have hcut := splitPosition?_append hp hc before
  rw [h, splitPosition?_append hq hd after, Option.some.injEq, Prod.mk.injEq, Prod.mk.injEq] at hcut
  obtain ⟨hbefore, hline, hcolumn⟩ := hcut
  obtain ⟨hbefore, hlast⟩ := List.append_inj' hbefore rfl
  exact ⟨hbefore.symm, (List.singleton_injective hlast).symm, hline.symm, hcolumn.symm⟩

end FrameParts

/-! ## The grammar -/

namespace Shape

open FrameParts

/-- A text has a shape, with the parts of a frame. -/
inductive Fits : Shape → FrameParts → Text → Prop
  | symbolAt {name line column : Text} (h : Numbered ⟨name, none, line, column⟩) :
    Fits .symbolAt ⟨name, none, line, column⟩
      (name ++ "@".toList ++ line ++ ":".toList ++ column)
  | fileAt {file line column : Text} (h : Numbered ⟨[], some file, line, column⟩) :
    Fits .fileAt ⟨[], some file, line, column⟩
      ("at ".toList ++ file ++ ":".toList ++ line ++ ":".toList ++ column)
  | symbolInFile {name file line column : Text} (h : Numbered ⟨name, some file, line, column⟩) :
    Fits .symbolInFile ⟨name, some file, line, column⟩
      ("at ".toList ++ name ++ " (".toList ++ file ++ ":".toList ++ line ++ ":".toList ++ column
        ++ ")".toList)

variable {s s' : Shape} {p q : FrameParts} {t : Text}

lemma Fits.numbered (h : s.Fits p t) : p.Numbered := by
  cases h <;> assumption

lemma Fits.eq_written (h : s.Fits p t) : t = s.written p := by
  cases h <;> simp [written, position, opening]

lemma Fits.parts?_eq (h : s.Fits p t) (hs : s ≠ .symbolInFile) : s.parts? t = some p := by
  cases h with
  | symbolAt hp => simpa [written, position] using parts?_symbolAt_written hp
  | fileAt hp => simpa [written, position, opening] using parts?_fileAt_written hp
  | symbolInFile => exact absurd rfl hs

lemma not_fits_concat (hs : s ≠ .symbolInFile) {c : Char} (hc : c.isDigit = false) :
    ¬ s.Fits p (t ++ [c]) := by
  intro h
  have hparts := h.parts?_eq hs
  rw [parts?_concat_eq_none hs hc] at hparts
  cases hparts

/-- **One shape.** A text has one shape only. -/
theorem Fits.shape_unique (hp : s.Fits p t) (hq : s'.Fits q t) : s = s' := by
  have hmark {c d : Char} (hc : c.isDigit = false) (hd : d.isDigit = false) {before after : Text}
      (h : before ++ c :: p.position = after ++ d :: q.position) : c = d :=
    (position_inj hp.numbered hq.numbered hc hd h).2.1
  have hsame : s.written p = s'.written q := hp.eq_written.symm.trans hq.eq_written
  cases s <;> cases s'
  case symbolAt.symbolAt | fileAt.fileAt | symbolInFile.symbolInFile => rfl
  case symbolAt.fileAt => exact absurd (hmark rfl rfl hsame) (by decide)
  case fileAt.symbolAt => exact absurd (hmark rfl rfl hsame) (by decide)
  case symbolAt.symbolInFile | fileAt.symbolInFile =>
    rw [hq.eq_written] at hp
    exact absurd hp (not_fits_concat (by decide) rfl)
  case symbolInFile.symbolAt | symbolInFile.fileAt =>
    rw [hp.eq_written] at hq
    exact absurd hq (not_fits_concat (by decide) rfl)

lemma Fits.exists_file (h : Shape.symbolInFile.Fits p t) : ∃ file, p.file = some file := by
  cases h
  exact ⟨_, rfl⟩

/-- The text between the opening word and the position is known. -/
lemma Fits.inner_unique (hp : Shape.symbolInFile.Fits p t) (hq : Shape.symbolInFile.Fits q t) :
    p.name ++ " (".toList ++ p.file.getD [] = q.name ++ " (".toList ++ q.file.getD [] ∧
      p.line = q.line ∧ p.column = q.column := by
  have hsame : Shape.symbolInFile.written p = Shape.symbolInFile.written q :=
    hp.eq_written.symm.trans hq.eq_written
  obtain ⟨hsame, -⟩ := List.append_inj' hsame rfl
  obtain ⟨hinner, -, hline, hcolumn⟩ := position_inj hp.numbered hq.numbered rfl rfl hsame
  simp only [List.append_assoc] at hinner
  exact ⟨by simpa using List.append_cancel_left hinner, hline, hcolumn⟩

lemma Fits.eq_of_ne (hp : s.Fits p t) (hs : s ≠ .symbolInFile) (hq : s.Fits q t) : p = q :=
  Option.some.inj ((hp.parts?_eq hs).symm.trans (hq.parts?_eq hs))

/-- **One position.** A text fits a shape with one position only. -/
theorem Fits.position_unique (hp : s.Fits p t) (hq : s.Fits q t) :
    p.line = q.line ∧ p.column = q.column := by
  by_cases hs : s = .symbolInFile
  · subst hs
    exact (hp.inner_unique hq).2
  · obtain rfl := hp.eq_of_ne hs hq
    exact ⟨rfl, rfl⟩

/-- The length of the name settles where a name ends. -/
lemma Fits.eq_of_length_eq (hp : s.Fits p t) (hq : s.Fits q t)
    (h : p.name.length = q.name.length) : p = q := by
  by_cases hs : s = .symbolInFile
  · subst hs
    obtain ⟨hinner, hline, hcolumn⟩ := hp.inner_unique hq
    simp only [List.append_assoc] at hinner
    obtain ⟨hname, hrest⟩ := List.append_inj hinner h
    have hfile : p.file.getD [] = q.file.getD [] := List.append_cancel_left hrest
    obtain ⟨file, hp⟩ := hp.exists_file
    obtain ⟨file', hq⟩ := hq.exists_file
    rw [hp, hq, Option.getD_some, Option.getD_some] at hfile
    rw [FrameParts.mk.injEq]
    exact ⟨hname, by rw [hp, hq, hfile], hline, hcolumn⟩
  · exact hp.eq_of_ne hs hq

/-! ## The parts that are found -/

/-- The parts of a symbol and a file, and that the symbol ends at the last mark between them. -/
lemma of_parts?_symbolInFile (h : parts? .symbolInFile t = some p) :
    Shape.symbolInFile.Fits p t ∧ ∀ early late,
      p.name ++ " (".toList ++ p.file.getD [] = early ++ " (".toList ++ late →
        early.length ≤ p.name.length := by
  simp only [parts?, Option.bind_eq_bind, Option.bind_eq_some_iff, Option.pure_def,
    Option.some.injEq, Prod.exists] at h
  obtain ⟨whole, hwhole, front, line, column, hposition, lead, hlead, inner, hinner, name, file,
    hcut, rfl⟩ := h
  obtain rfl := eq_concat_of_dropEnd? hwhole
  obtain ⟨rfl, hp⟩ := of_splitPosition? hposition name (some file)
  obtain rfl := Text.eq_append_of_dropLead? hlead
  obtain rfl := eq_concat_of_dropEnd? hinner
  obtain ⟨rfl, hlongest⟩ := (Text.splitLast?_eq_some_iff (by decide)).1 hcut
  exact ⟨by simpa [position, opening] using Fits.symbolInFile hp, hlongest⟩

lemma fits_of_parts? (h : s.parts? t = some p) : s.Fits p t := by
  cases s with
  | symbolAt =>
    simp only [parts?, Option.bind_eq_bind, Option.bind_eq_some_iff, Option.pure_def,
      Option.some.injEq, Prod.exists] at h
    obtain ⟨front, line, column, hposition, name, hname, rfl⟩ := h
    obtain ⟨rfl, hp⟩ := of_splitPosition? hposition name none
    obtain rfl := eq_concat_of_dropEnd? hname
    simpa [position] using Fits.symbolAt hp
  | fileAt =>
    simp only [parts?, Option.bind_eq_bind, Option.bind_eq_some_iff, Option.pure_def,
      Option.some.injEq, Prod.exists] at h
    obtain ⟨front, line, column, hposition, inner, hinner, file, hfile, rfl⟩ := h
    obtain ⟨rfl, hp⟩ := of_splitPosition? hposition [] (some file)
    obtain rfl := Text.eq_append_of_dropLead? hinner
    obtain rfl := eq_concat_of_dropEnd? hfile
    simpa [position, opening] using Fits.fileAt hp
  | symbolInFile => exact (of_parts?_symbolInFile h).1

lemma length_le_of_parts? (h : s.parts? t = some p) (hq : s.Fits q t) :
    q.name.length ≤ p.name.length := by
  by_cases hs : s = .symbolInFile
  · subst hs
    obtain ⟨hp, hlongest⟩ := of_parts?_symbolInFile h
    exact hlongest _ _ (hp.inner_unique hq).1
  · obtain rfl := Option.some.inj (h.symm.trans (hq.parts?_eq hs))
    exact le_rfl

lemma Fits.parts?_isSome (h : s.Fits p t) : (s.parts? t).isSome = true := by
  by_cases hs : s = .symbolInFile
  · subst hs
    obtain ⟨name, file, hparts⟩ := parts?_symbolInFile_written h.numbered
    rw [h.eq_written, hparts, Option.isSome_some]
  · rw [h.parts?_eq hs, Option.isSome_some]

/-- **The parts of a text.** They fit the shape, and no parts that do have a longer name. -/
theorem parts?_eq_some_iff :
    s.parts? t = some p ↔ s.Fits p t ∧ ∀ q, s.Fits q t → q.name.length ≤ p.name.length := by
  constructor
  · intro h
    exact ⟨fits_of_parts? h, fun q hq => length_le_of_parts? h hq⟩
  · rintro ⟨hp, hlongest⟩
    obtain ⟨q, hq⟩ := Option.isSome_iff_exists.1 hp.parts?_isSome
    have hlength : p.name.length = q.name.length :=
      Nat.le_antisymm (length_le_of_parts? hq hp) (hlongest q (fits_of_parts? hq))
    rw [hq, hp.eq_of_length_eq (fits_of_parts? hq) hlength]

/-! ## The order of the shapes -/

/-- If only one item of a list has a result, the order of the list does not matter. -/
lemma findSome?_perm {α β : Type} {f : α → Option β} {xs ys : List α} (h : xs.Perm ys)
    (hone : ∀ a b, (f a).isSome = true → (f b).isSome = true → a = b) :
    xs.findSome? f = ys.findSome? f := by
  induction h with
  | nil => rfl
  | cons a _ ih => rw [List.findSome?_cons, List.findSome?_cons, ih]
  | swap a b xs =>
    simp only [List.findSome?_cons]
    cases ha : f a with
    | none => rfl
    | some x =>
      cases hb : f b with
      | none => rfl
      | some y =>
        obtain rfl := hone a b (by simp [ha]) (by simp [hb])
        rw [← ha, ← hb]
  | trans _ _ ih₁ ih₂ => exact ih₁.trans ih₂

lemma eq_of_parts?_isSome (hs : (s.parts? t).isSome = true) (hs' : (s'.parts? t).isSome = true) :
    s = s' := by
  obtain ⟨p, hp⟩ := Option.isSome_iff_exists.1 hs
  obtain ⟨q, hq⟩ := Option.isSome_iff_exists.1 hs'
  exact (fits_of_parts? hp).shape_unique (fits_of_parts? hq)

lemma findSome?_parts?_of_mem {shapes : List Shape} (h : s ∈ shapes) (hs : s.parts? t = some p) :
    shapes.findSome? (·.parts? t) = some p := by
  have hfirst : (shapes.findSome? (·.parts? t)).isSome = true :=
    List.findSome?_isSome_iff.2 ⟨s, h, by rw [hs, Option.isSome_some]⟩
  obtain ⟨q, hq⟩ := Option.isSome_iff_exists.1 hfirst
  obtain ⟨s', -, hs'⟩ := List.exists_of_findSome?_eq_some hq
  obtain rfl : s = s' := eq_of_parts?_isSome (by rw [hs, Option.isSome_some])
    (by rw [hs', Option.isSome_some])
  rw [hq, ← hs', hs]

lemma findSome?_parts?_perm {shapes shapes' : List Shape} (h : shapes.Perm shapes') (t : Text) :
    shapes.findSome? (·.parts? t) = shapes'.findSome? (·.parts? t) :=
  findSome?_perm h fun _ _ => eq_of_parts?_isSome

end Shape

namespace FrameLine

lemma isSome_partsUnder?_iff {s : Shape} {t : Text} :
    (partsUnder? [s] t).isSome = true ↔
      ∃ body, body? t = some body ∧ (s.parts? body).isSome = true := by
  cases hbody : body? t with
  | none => simp [partsUnder?, hbody]
  | some body => cases hparts : s.parts? body <;> simp [partsUnder?, hbody, hparts]

/-- **Exclusive shapes.** At most one shape fits a line, so a line is read alike in whatever order
the shapes are tried. -/
theorem shapes_exclusive (t : Text) :
    (∀ s s' : Shape, (partsUnder? [s] t).isSome = true → (partsUnder? [s'] t).isSome = true →
      s = s') ∧
    ∀ shapes : List Shape, shapes.Perm Shape.all → readUnder? shapes t = read? t := by
  constructor
  · intro s s' hs hs'
    obtain ⟨body, hbody, hs⟩ := isSome_partsUnder?_iff.1 hs
    obtain ⟨body', hbody', hs'⟩ := isSome_partsUnder?_iff.1 hs'
    obtain rfl := Option.some.inj (hbody.symm.trans hbody')
    exact Shape.eq_of_parts?_isSome hs hs'
  · intro shapes hshapes
    have hparts : partsUnder? shapes t = partsUnder? Shape.all t := by
      simp only [partsUnder?, Shape.findSome?_parts?_perm hshapes]
    simp only [read?, readUnder?, hparts]

theorem shapes_exclusive_reversed :
    (partsUnder? [.symbolInFile] "at a@1:2 (b:3:4)".toList).isSome = true ∧
      (∀ s, (partsUnder? [s] "at a@1:2 (b:3:4)".toList).isSome = true → .symbolInFile = s) ∧
      readUnder? [.symbolInFile, .fileAt, .symbolAt] "at a@1:2 (b:3:4)".toList =
        .ok (some ⟨some "a@1:2".toList, 3, 4, some "b".toList⟩) := by
  obtain ⟨hone, horder⟩ := shapes_exclusive "at a@1:2 (b:3:4)".toList
  have hfits : (partsUnder? [.symbolInFile] "at a@1:2 (b:3:4)".toList).isSome = true := by decide
  refine ⟨hfits, fun s hs => hone _ s hfits hs, ?_⟩
  rw [horder _ (by decide)]
  rfl

/-! ## Reading a line -/

/-- A line fits a shape with the parts of a frame.  One line feed at its end does not count. -/
structure LineFits (s : Shape) (p : FrameParts) (t : Text) : Prop where
  lineFeed_not_mem : '\n' ∉ Text.dropFinalLineEnd t
  fits : s.Fits p (Text.dropFinalLineEnd t)

/-- No run of digits in a text is too long to be read. -/
def RunsReadable (t : Text) : Prop :=
  ∀ ds, ds <:+: t → (∀ c ∈ ds, c.isDigit = true) → ds.length ≤ Numeral.digitLimit

lemma dropFinalLineEnd_infix (t : Text) : Text.dropFinalLineEnd t <:+: t := by
  rw [Text.dropFinalLineEnd]
  split
  · exact (List.dropLast_prefix t).isInfix
  · exact List.infix_rfl

lemma body?_eq_some_iff {t body : Text} :
    body? t = some body ↔ '\n' ∉ Text.dropFinalLineEnd t ∧ Text.dropFinalLineEnd t = body := by
  rw [body?]
  split
  · next hmem => simp [hmem]
  · next hmem => simp [hmem]

/-- The parts of a line under the shape that it fits. -/
lemma partsUnder?_all_eq_some_iff {t : Text} {p : FrameParts} :
    partsUnder? Shape.all t = some p ↔ ∃ s, LineFits s p t ∧
      ∀ q, LineFits s q t → q.name.length ≤ p.name.length := by
  have hall (s : Shape) : s ∈ Shape.all := by cases s <;> decide
  constructor
  · intro h
    obtain ⟨body, hbody, hparts⟩ := Option.bind_eq_some_iff.1 h
    obtain ⟨s, -, hs⟩ := List.exists_of_findSome?_eq_some hparts
    obtain ⟨hfeed, rfl⟩ := body?_eq_some_iff.1 hbody
    obtain ⟨hp, hlongest⟩ := Shape.parts?_eq_some_iff.1 hs
    exact ⟨s, ⟨hfeed, hp⟩, fun q hq => hlongest q hq.fits⟩
  · rintro ⟨s, ⟨hfeed, hp⟩, hlongest⟩
    have hs : s.parts? (Text.dropFinalLineEnd t) = some p :=
      Shape.parts?_eq_some_iff.2 ⟨hp, fun q hq => hlongest q ⟨hfeed, hq⟩⟩
    rw [partsUnder?, body?_eq_some_iff.2 ⟨hfeed, rfl⟩]
    exact Shape.findSome?_parts?_of_mem (hall s) hs

/-- The frame of parts whose numbers can be read. -/
def frameOf (p : FrameParts) : FrameLine where
  name := if p.name.isEmpty then none else some p.name
  line := Numeral.value p.line
  column := Numeral.value p.column
  file := p.file

lemma RunsReadable.read {t ds : Text} (h : RunsReadable t) (hds : ds <:+: t)
    (hdigits : ∀ c ∈ ds, c.isDigit = true) : Numeral.read ds = .ok (Numeral.value ds) := by
  rw [Numeral.read, if_neg (Nat.not_lt.2 (h ds hds hdigits))]

lemma numbers_infix {s : Shape} {p : FrameParts} {body : Text} (h : s.Fits p body) :
    p.line <:+: body ∧ p.column <:+: body := by
  have hposition : p.position <:+: body := by
    rw [h.eq_written]
    cases s
    · exact ⟨p.name ++ ['@'], [], by simp [Shape.written]⟩
    · exact ⟨Shape.opening ++ p.file.getD [] ++ [':'], [], by simp [Shape.written]⟩
    · exact ⟨Shape.opening ++ p.name ++ " (".toList ++ p.file.getD [] ++ [':'], [')'],
        by simp [Shape.written]⟩
  have hline : p.line <:+: p.position := ⟨[], ':' :: p.column, rfl⟩
  have hcolumn : p.column <:+: p.position := ⟨p.line ++ [':'], [], by simp [FrameParts.position]⟩
  exact ⟨hline.trans hposition, hcolumn.trans hposition⟩

lemma ofParts_of_lineFits {s : Shape} {p : FrameParts} {t : Text} (hruns : RunsReadable t)
    (h : LineFits s p t) : ofParts p = .ok (frameOf p) := by
  obtain ⟨hline, hcolumn⟩ := numbers_infix h.fits
  have hnumbered := h.fits.numbered
  have hinfix := dropFinalLineEnd_infix t
  have hreadLine := hruns.read (hline.trans hinfix) hnumbered.line_digits
  have hreadColumn := hruns.read (hcolumn.trans hinfix) hnumbered.column_digits
  simp only [ofParts, hreadLine, hreadColumn]
  rfl

lemma exists_longest {s : Shape} {q : FrameParts} {t : Text} (h : LineFits s q t) :
    ∃ p, LineFits s p t ∧ ∀ r, LineFits s r t → r.name.length ≤ p.name.length := by
  obtain ⟨p, hp⟩ := Option.isSome_iff_exists.1 h.fits.parts?_isSome
  obtain ⟨hfits, hlongest⟩ := Shape.parts?_eq_some_iff.1 hp
  exact ⟨p, ⟨h.lineFeed_not_mem, hfits⟩, fun r hr => hlongest r hr.fits⟩

lemma read?_of_lineFits {s : Shape} {p : FrameParts} {t : Text} (hruns : RunsReadable t)
    (h : LineFits s p t) (hlongest : ∀ q, LineFits s q t → q.name.length ≤ p.name.length) :
    read? t = .ok (some (frameOf p)) := by
  have hparts := partsUnder?_all_eq_some_iff.2 ⟨s, h, hlongest⟩
  simp only [read?, readUnder?, hparts, ofParts_of_lineFits hruns h]
  rfl

lemma read?_of_not_lineFits {t : Text} (h : ¬ ∃ s p, LineFits s p t) : read? t = .ok none := by
  have hparts : partsUnder? Shape.all t = none := by
    cases hparts : partsUnder? Shape.all t with
    | none => rfl
    | some p =>
      obtain ⟨s, hp, -⟩ := partsUnder?_all_eq_some_iff.1 hparts
      exact absurd ⟨s, p, hp⟩ h
  simp only [read?, readUnder?, hparts]

/-- **The grammar of frame lines.** A line without overlong numbers is read as a frame exactly if it
fits a shape.  Its position is then that of any parts that it fits the shape with, and these are
unique but for where a symbol ends before a file: it is read as far as it can go. -/
theorem read?_iff_fits {t : Text} (h : RunsReadable t) :
    ((∃ f, read? t = .ok (some f)) ↔ ∃ s p, LineFits s p t) ∧
    (read? t = .ok none ↔ ¬ ∃ s p, LineFits s p t) ∧
    (∀ f, read? t = .ok (some f) ↔ ∃ s p, LineFits s p t ∧
      (∀ q, LineFits s q t → q.name.length ≤ p.name.length) ∧ f = frameOf p) ∧
    ∀ s p s' q, LineFits s p t → LineFits s' q t →
      s = s' ∧ p.line = q.line ∧ p.column = q.column ∧ (s ≠ .symbolInFile → p = q) := by
  have hread (hfits : ∃ s p, LineFits s p t) : ∃ s p, LineFits s p t ∧
      (∀ q, LineFits s q t → q.name.length ≤ p.name.length) ∧ read? t = .ok (some (frameOf p)) := by
    obtain ⟨s, q, hq⟩ := hfits
    obtain ⟨p, hp, hlongest⟩ := exists_longest hq
    exact ⟨s, p, hp, hlongest, read?_of_lineFits h hp hlongest⟩
  have hfits {f : FrameLine} (hf : read? t = .ok (some f)) : ∃ s p, LineFits s p t := by
    by_contra hnone
    rw [read?_of_not_lineFits hnone] at hf
    cases hf
  refine ⟨⟨fun ⟨f, hf⟩ => hfits hf, fun hsome => ?_⟩, ⟨fun hnone hsome => ?_,
    read?_of_not_lineFits⟩, fun f => ⟨fun hf => ?_, ?_⟩, fun s p s' q hp hq => ?_⟩
  · obtain ⟨s, p, -, -, hp⟩ := hread hsome
    exact ⟨frameOf p, hp⟩
  · obtain ⟨s, p, -, -, hp⟩ := hread hsome
    rw [hnone] at hp
    cases hp
  · obtain ⟨s, p, hp, hlongest, hframe⟩ := hread (hfits hf)
    rw [hf] at hframe
    exact ⟨s, p, hp, hlongest, Option.some.inj (Except.ok.inj hframe)⟩
  · rintro ⟨s, p, hp, hlongest, rfl⟩
    exact read?_of_lineFits h hp hlongest
  · obtain rfl := hp.fits.shape_unique hq.fits
    obtain ⟨hline, hcolumn⟩ := hp.fits.position_unique hq.fits
    exact ⟨rfl, hline, hcolumn, fun hs => hp.fits.eq_of_ne hs hq.fits⟩

/-- A line on which a symbol could end in three places. -/
def nestedLine : Text := "at a (b (c (d:12:3)\n".toList

theorem read?_iff_fits_nested :
    RunsReadable nestedLine ∧
      read? nestedLine = .ok (some ⟨some "a (b (c".toList, 12, 3, some "d".toList⟩) ∧
      LineFits .symbolInFile ⟨"a".toList, some "b (c (d".toList, "12".toList, "3".toList⟩
        nestedLine ∧
      ∃ p, LineFits .symbolInFile p nestedLine ∧ p.name = "a (b (c".toList ∧
        ∀ q, LineFits .symbolInFile q nestedLine → q.name.length ≤ p.name.length := by
  have hruns : RunsReadable nestedLine := by
    intro ds hds _
    exact hds.length_le.trans (by decide)
  have hframe : read? nestedLine = .ok (some ⟨some "a (b (c".toList, 12, 3, some "d".toList⟩) := rfl
  have hshort : LineFits .symbolInFile ⟨"a".toList, some "b (c (d".toList, "12".toList, "3".toList⟩
      nestedLine :=
    ⟨by decide, .symbolInFile ⟨by decide, List.all_eq_true.1 (by decide), by decide,
      List.all_eq_true.1 (by decide)⟩⟩
  obtain ⟨-, -, hread, hunique⟩ := read?_iff_fits hruns
  obtain ⟨s, p, hp, hlongest, hparts⟩ := (hread _).1 hframe
  obtain ⟨rfl, -⟩ := hunique _ _ _ _ hshort hp
  refine ⟨hruns, hframe, hshort, p, hp, ?_, hlongest⟩
  have hname : some "a (b (c".toList = if p.name.isEmpty then none else some p.name :=
    congrArg FrameLine.name hparts
  split at hname
  · cases hname
  · exact (Option.some.inj hname).symm

end FrameLine

end Retrace
