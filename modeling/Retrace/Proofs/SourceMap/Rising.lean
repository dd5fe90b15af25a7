import Retrace.Proofs.SourceMap.Closest
import Retrace.Proofs.SourceMap.Decoding
import Retrace.Proofs.SourceMap.Regular

/-!
# Which token answers

A regular map is loaded with its tokens in the order in which its mappings list them, and nothing
keeps a segment from moving the generated column back.  `closest_iff_rising` says of every text
that is loaded as a regular map what holds on all its lines, and that the closest token answers on
those whose segments never move the column back (`Rising`).  On `backwardText`, which has one
segment that does, look-up misses the closest token.
-/

namespace Retrace.SourceMap

variable {sources : Sources} {names : List Text}

/-! ## Columns of a line -/

/-- A segment does not move the generated column back. -/
def Advances (segment : Text) : Prop := ∀ n ns, Vlq.read segment = .ok (n :: ns) → 0 ≤ n

/-- No segment of a line of mappings moves the generated column back. -/
def Rising (line : Text) : Prop := ∀ segment ∈ Text.splitOn [','] line, Advances segment

lemma advances_nil : Advances [] := by
  intro n ns h
  cases h

lemma advances_iff {segment : Text} {r next : Running} {token : Token}
    (h : decodeSegment sources names r segment = .ok (next, token)) :
    Advances segment ↔ r.column ≤ next.column := by
  obtain ⟨fields, ref, hread, hadvance, -⟩ := exists_of_decodeSegment h
  have hcolumn := column_of_advance hadvance
  cases fields with
  | nil =>
    refine iff_of_true ?_ (by simp [hcolumn])
    intro n ns hcons
    rw [hread] at hcons
    cases hcons
  | cons first rest =>
    rw [List.headD_cons] at hcolumn
    constructor
    · intro hadvances
      have := hadvances first rest hread
      omega
    · intro hle n ns hcons
      rw [hread] at hcons
      obtain ⟨rfl, rfl⟩ := List.cons.inj (Except.ok.inj hcons)
      omega

lemma column_of_decodeSegment {segment : Text} {r next : Running} {token : Token}
    (h : decodeSegment sources names r segment = .ok (next, token)) :
    (token.column : Int) = next.column := by
  obtain ⟨fields, ref, -, -, htoken⟩ := exists_of_decodeSegment h
  exact column_of_tokenOf htoken

/-- Segments that do not move the column back are those whose tokens are in order, from the column
on where they start. -/
lemma forall_advances_iff {r last : Running} {segments : List Text} {tokens : List Token}
    (h : decodeSegments sources names r segments = .ok (last, tokens)) :
    (∀ segment ∈ segments, Advances segment) ↔
      (∀ u ∈ tokens, r.column ≤ u.column) ∧ InOrder tokens := by
  induction segments generalizing r tokens with
  | nil =>
    obtain ⟨-, rfl⟩ := Prod.mk.inj (Except.ok.inj h)
    simp [InOrder]
  | cons segment segments ih =>
    rw [List.forall_mem_cons]
    rcases exists_of_decodeSegments_cons h with ⟨rfl, hrest⟩ |
      ⟨next, token, rest, hsegment, hrest, rfl⟩
    · rw [ih hrest]
      exact and_iff_right advances_nil
    · have hcolumn := column_of_decodeSegment hsegment
      rw [ih hrest, advances_iff hsegment, List.forall_mem_cons, inOrder_cons, hcolumn]
      constructor
      · rintro ⟨hle, hlater, horder⟩
        refine ⟨⟨hle, fun u hu => hle.trans (hlater u hu)⟩, fun u hu => ?_, horder⟩
        have := hlater u hu
        omega
      · rintro ⟨⟨hle, -⟩, hlater, horder⟩
        refine ⟨hle, fun u hu => ?_, horder⟩
        have := hlater u hu
        omega

/-- The tokens of a line are in order exactly if no segment moves the column back. -/
theorem inOrder_iff_rising {line : Text} {tokens : List Token}
    (h : DecodedFrom sources names line tokens) : InOrder tokens ↔ Rising line := by
  obtain ⟨r, last, hstart, hdecode⟩ := h
  rw [Rising, forall_advances_iff hdecode]
  refine ⟨fun horder => ⟨fun u _ => ?_, horder⟩, fun h => h.2⟩
  omega

/-! ## Lines of a map -/

/-- The text of a line of mappings; lines behind the last one are empty. -/
def lineOf (mappings : Text) (line : Nat) : Text := (Text.splitOn [';'] mappings).getD line []

lemma decodedFrom_getD {lines : List Text} {table : Table}
    (h : List.Forall₂ (DecodedFrom sources names) lines table) (line : Nat) :
    DecodedFrom sources names (lines.getD line []) (table.getD line []) := by
  induction h generalizing line with
  | nil => exact ⟨{}, {}, rfl, rfl⟩
  | cons hfirst _ ih =>
    cases line with
    | zero => exact hfirst
    | succ line => exact ih line

/-- A regular map is asked for a position on one of its lines. -/
lemma resolve_regular (table : Table) (line column : Nat) :
    (SourceMap.regular table).resolve (line + 1) column =
      (tokenCovering? (table.getD line []) column).bind Token.position? := by
  rw [resolve_succ, lookup?, lookup?_eq_tokenCovering?]

/-- **The closest token.** The lines of a regular map that is loaded are decoded from those of its
mappings.  A position is answered from a token of its line that stands at or before it, and a token
is answered at its own column, whatever the order of the line.  It is always the closest token that
answers if no segment of the line moves the column back; and that is what it takes for the closest
token to be found on the line and on every line that it starts with. -/
theorem closest_iff_rising {path : Option Text} {t : Text} {table : Table}
    (h : load path t = .ok (.regular table)) :
    ∃ mappings sources names, HasMappings t mappings ∧ ∀ line : Nat,
      DecodedFrom sources names (lineOf mappings line) (table.getD line []) ∧
      (∀ column : Nat, ∃ answer,
        (SourceMap.regular table).resolve (line + 1) column = answer.bind Token.position? ∧
        (∀ token ∈ answer, Stands (table.getD line []) token ∧ token.column ≤ column) ∧
        (Rising (lineOf mappings line) → IsClosest (table.getD line []) column answer)) ∧
      (∀ token, Stands (table.getD line []) token →
        (SourceMap.regular table).resolve (line + 1) token.column = token.position?) ∧
      (Rising (lineOf mappings line) ↔
        ∀ leading, leading <+: table.getD line [] → ∀ column,
          IsClosest leading column (tokenCovering? leading column)) := by
  obtain ⟨mappings, sources, names, hmappings, hlines⟩ := exists_mappings_of_load h
  refine ⟨mappings, sources, names, hmappings, fun line => ?_⟩
  have hline := decodedFrom_getD hlines line
  have horder := inOrder_iff_rising hline
  refine ⟨hline, fun column => ?_, fun token hstands => ?_, ?_⟩
  · refine ⟨_, resolve_regular table line column, ?_, ?_⟩
    · intro token htoken
      exact stands_of_tokenCovering? htoken
    · intro hrising
      exact isClosest_tokenCovering? (horder.2 hrising) column
  · rw [resolve_regular, tokenCovering?_of_stands hstands]
    rfl
  · exact horder.symm.trans inOrder_iff

/-! ### A line out of order -/

/-- A regular map whose first line moves the column back, from 20 to 2, and whose second line does
not. -/
def backwardText : Text :=
  "\x7b\"version\":3,\"sources\":[\"a.js\"],\"names\":[],".toList ++
    "\"mappings\":\"UAAA,UACA,lBACA;AACA,KACA\"\x7d".toList

/-- A token for the start of a line of the source. -/
def lineToken (column line : Nat) : Token := ⟨column, some ⟨.text "a.js".toList, line, 0, none⟩⟩

/-- The tokens of the first line. -/
def backwardLine : List Token := [lineToken 10 0, lineToken 20 1, lineToken 2 2]

/-- The tokens of both lines. -/
def backwardTable : Table := [backwardLine, [lineToken 0 3, lineToken 5 4]]

lemma load_backwardText : load none backwardText = .ok (.regular backwardTable) := by cbv

/-- On the first line a token answers at its own column, and on the second line the closest token
answers for every column. -/
theorem closest_iff_rising_backward :
    load none backwardText = .ok (.regular backwardTable) ∧
      (SourceMap.regular backwardTable).resolve 1 2 = (lineToken 2 2).position? ∧
      ∀ column : Nat, ∃ answer,
        (SourceMap.regular backwardTable).resolve 2 column = answer.bind Token.position? ∧
          IsClosest [lineToken 0 3, lineToken 5 4] column answer := by
  obtain ⟨mappings, sources, names, -, hall⟩ := closest_iff_rising load_backwardText
  have hstands : Stands backwardLine (lineToken 2 2) :=
    ⟨[lineToken 10 0, lineToken 20 1], [], rfl, by simp⟩
  refine ⟨load_backwardText, (hall 0).2.2.1 _ hstands, fun column => ?_⟩
  obtain ⟨hdecoded, hanswers, -, -⟩ := hall 1
  have hrising := (inOrder_iff_rising hdecoded).1 (by decide)
  obtain ⟨answer, hanswer, -, hclosest⟩ := hanswers column
  exact ⟨answer, hanswer, hclosest hrising⟩

lemma closest_backwardLine {column : Nat} {answer : Option Token} {token : Token}
    (h : Closest backwardLine column token) (hanswer : IsClosest backwardLine column answer) :
    answer = some token := by
  cases answer with
  | none => exact absurd h.le (not_le.2 (hanswer token h.stands.mem))
  | some other => rw [h.unique hanswer]

/-- On the first line look-up misses the closest token: behind all of its tokens the third one
answers in place of the second, and between the third and the first none does in place of the
third. -/
theorem not_closest_backward :
    load none backwardText = .ok (.regular backwardTable) ∧
      (SourceMap.regular backwardTable).resolve 1 25 = (lineToken 2 2).position? ∧
      (SourceMap.regular backwardTable).resolve 1 5 = none ∧
      ∀ column : Nat, column = 25 ∨ column = 5 → ¬ ∃ answer,
        (SourceMap.regular backwardTable).resolve 1 column = answer.bind Token.position? ∧
          IsClosest backwardLine column answer := by
  have hbehind : (SourceMap.regular backwardTable).resolve 1 25 = (lineToken 2 2).position? := rfl
  have hbetween : (SourceMap.regular backwardTable).resolve 1 5 = none := rfl
  refine ⟨load_backwardText, hbehind, hbetween, ?_⟩
  rintro column (rfl | rfl) ⟨answer, hanswer, hclosest⟩
  · have hsecond : Closest backwardLine 25 (lineToken 20 1) :=
      ⟨⟨[lineToken 10 0], [lineToken 2 2], rfl, by decide⟩, by decide, by decide⟩
    rw [closest_backwardLine hsecond hclosest] at hanswer
    cases hbehind.symm.trans hanswer
  · have hthird : Closest backwardLine 5 (lineToken 2 2) :=
      ⟨⟨[lineToken 10 0, lineToken 20 1], [], rfl, by decide⟩, by decide, by decide⟩
    rw [closest_backwardLine hthird hclosest] at hanswer
    cases hbetween.symm.trans hanswer

end Retrace.SourceMap
