import Retrace.Proofs.SourceMap.Vlq
import Retrace.Proofs.Text.Cutting
import Retrace.Proofs.Traversal
import Retrace.SourceMap.Mappings

/-!
# What mappings spell

Mappings spell numbers if every segment is made of complete numbers (`Spells`).  Reading finds
these numbers, and it finds numbers in other mappings too: a character outside the alphabet that is
not above `z` reads as the last character of the alphabet (`digit?_standIn`).  So what is read from
mappings is what they spell with that character in place of each stray one (`reads_iff`), and
nothing is read from mappings with a character above `z`.
-/

namespace Retrace

namespace Vlq

/-- A character of the base 64 alphabet. -/
def InAlphabet (c : Char) : Prop := (Base64.place? c).isSome = true

instance (c : Char) : Decidable (InAlphabet c) :=
  inferInstanceAs (Decidable ((Base64.place? c).isSome = true))

lemma InAlphabet.le {c : Char} (h : InAlphabet c) : c ≤ 'z' := by
  obtain ⟨place, hplace⟩ := Option.isSome_iff_exists.1 h
  exact Char.not_lt.1 (not_lt_of_place? hplace)

/-! ## Complete numbers are what is read -/

lemma Complete.inAlphabet {t : Text} {bits : Nat} (h : Complete t bits) :
    ∀ c ∈ t, InAlphabet c := by
  induction h with
  | last h _ => simp [InAlphabet, h]
  | more h _ _ ih => simpa [InAlphabet, h] using ih

lemma Numbers.inAlphabet {t : Text} {ns : List Int} (h : Numbers t ns) :
    ∀ c ∈ t, InAlphabet c := by
  induction h with
  | nil => simp
  | cons ht _ ih =>
    intro c hc
    rcases List.mem_append.1 hc with hc | hc
    · exact ht.inAlphabet c hc
    · exact ih c hc

/-- What is read within the alphabet is the rest of the number at hand and complete numbers behind
it. -/
lemma numbers_of_readFrom {bits shift : Nat} {t : Text} {ns : List Int}
    (halphabet : ∀ c ∈ t, InAlphabet c) (h : readFrom bits shift t = .ok ns) :
    (t = [] ∧ shift = 0 ∧ ns = []) ∨
      ∃ piece rest n ms, t = piece ++ rest ∧ Complete piece n ∧ Numbers rest ms ∧
        ns = signed (bits + n * Nat.pow 2 shift) :: ms := by
  induction t generalizing bits shift ns with
  | nil =>
    rw [readFrom] at h
    split at h
    · next hstart => exact Or.inl ⟨rfl, hstart.2, (Except.ok.inj h).symm⟩
    · cases h
  | cons c t ih =>
    right
    obtain ⟨hc, ht⟩ := List.forall_mem_cons.1 halphabet
    obtain ⟨place, hplace⟩ := Option.isSome_iff_exists.1 hc
    by_cases hlast : place < 32
    · rw [readFrom_of_last hplace hlast] at h
      obtain ⟨ms, hms, rfl⟩ := map_eq_ok_iff.1 h
      refine ⟨[c], t, place, ms, rfl, .last hplace hlast, ?_, rfl⟩
      rcases ih ht hms with ⟨rfl, -, rfl⟩ | ⟨piece, rest, n, ks, rfl, hpiece, hrest, rfl⟩
      · exact .nil
      · rw [signed_unshifted]
        exact .cons hpiece hrest
    · have hmore : 32 ≤ place := not_lt.1 hlast
      rw [readFrom_of_more hplace hmore] at h
      rcases ih ht h with ⟨-, hshift, -⟩ | ⟨piece, rest, n, ms, rfl, hpiece, hrest, rfl⟩
      · cases hshift
      · refine ⟨c :: piece, rest, _, ms, rfl, .more hplace hmore hpiece, hrest, ?_⟩
        rw [bits_more]

/-- Complete numbers are read, and nothing else is within the alphabet. -/
theorem numbers_iff {t : Text} {ns : List Int} :
    Numbers t ns ↔ (∀ c ∈ t, InAlphabet c) ∧ read t = .ok ns := by
  constructor
  · intro h
    exact ⟨h.inAlphabet, read_of_numbers h⟩
  · rintro ⟨halphabet, h⟩
    rcases numbers_of_readFrom halphabet h with ⟨rfl, -, rfl⟩ | ⟨piece, rest, n, ms, rfl, hpiece,
      hrest, rfl⟩
    · exact .nil
    · rw [signed_unshifted]
      exact .cons hpiece hrest

end Vlq

namespace SourceMap

open Vlq (InAlphabet Numbers)

/-! ## Stray characters -/

/-- A character with a part in mappings: a separator or one of the alphabet.  Any other one is
stray. -/
def HasPart (c : Char) : Prop := c = ';' ∨ c = ',' ∨ InAlphabet c

instance (c : Char) : Decidable (HasPart c) :=
  inferInstanceAs (Decidable (c = ';' ∨ c = ',' ∨ InAlphabet c))

/-- The character that another one reads as: a stray one as the last one of the alphabet, any other
as itself. -/
def standIn (c : Char) : Char := if HasPart c then c else '/'

lemma hasPart_standIn (c : Char) : HasPart (standIn c) := by
  rw [standIn]
  split
  · next h => exact h
  · decide

lemma standIn_eq_iff {sep : Char} (hsep : sep = ';' ∨ sep = ',') (c : Char) :
    standIn c = sep ↔ c = sep := by
  have hpart : HasPart sep := or_assoc.1 (Or.inl hsep)
  constructor
  · intro h
    rw [standIn] at h
    split at h
    · exact h
    · rcases hsep with rfl | rfl
      · exact absurd h (by decide)
      · exact absurd h (by decide)
  · rintro rfl
    rw [standIn, if_pos hpart]

lemma digit?_standIn {c : Char} (h : c ≤ 'z') : Vlq.digit? (standIn c) = Vlq.digit? c := by
  rw [standIn]
  split
  · rfl
  · next hstray =>
    have hplace : Base64.place? c = none := by
      rw [← Option.not_isSome_iff_eq_none]
      exact fun hin => hstray (Or.inr (Or.inr hin))
    rw [Vlq.digit?, Vlq.digit?, if_neg (Char.not_lt.2 h), hplace]
    rfl

lemma readFrom_map_standIn {t : Text} (h : ∀ c ∈ t, c ≤ 'z') (bits shift : Nat) :
    Vlq.readFrom bits shift (t.map standIn) = Vlq.readFrom bits shift t := by
  induction t generalizing bits shift with
  | nil => rfl
  | cons c t ih =>
    obtain ⟨hc, ht⟩ := List.forall_mem_cons.1 h
    rw [List.map_cons, Vlq.readFrom, Vlq.readFrom, digit?_standIn hc]
    cases Vlq.digit? c with
    | none => rfl
    | some d => simp only [ih ht]

lemma le_of_readFrom {bits shift : Nat} {t : Text} {ns : List Int}
    (h : Vlq.readFrom bits shift t = .ok ns) : ∀ c ∈ t, c ≤ 'z' := by
  induction t generalizing bits shift ns with
  | nil => simp
  | cons c t ih =>
    rw [Vlq.readFrom] at h
    by_cases hc : 'z' < c
    · simp only [Vlq.digit?, if_pos hc] at h
      cases h
    · refine List.forall_mem_cons.2 ⟨Char.not_lt.1 hc, ?_⟩
      split at h
      · cases h
      · dsimp only at h
        split at h
        · exact ih h
        · split at h
          · cases h
          · next hrest => exact ih hrest

lemma read_eq_ok_iff {t : Text} {ns : List Int} :
    Vlq.read t = .ok ns ↔ (∀ c ∈ t, c ≤ 'z') ∧ Vlq.read (t.map standIn) = .ok ns := by
  constructor
  · intro h
    have hle := le_of_readFrom h
    exact ⟨hle, (readFrom_map_standIn hle 0 0).trans h⟩
  · rintro ⟨hle, h⟩
    exact (readFrom_map_standIn hle 0 0).symm.trans h

/-! ## Lines and segments -/

/-- The segments of a line, those that are empty left out. -/
def segmentsOf (line : Text) : List Text := (Text.splitOn [','] line).filter (!·.isEmpty)

/-- Every segment of mappings goes with some numbers, line by line. -/
def Lists (R : Text → List Int → Prop) (mappings : Text) (lines : List (List (List Int))) : Prop :=
  List.Forall₂ (fun line numbers => List.Forall₂ R (segmentsOf line) numbers)
    (Text.splitOn [';'] mappings) lines

/-- Every segment of mappings is made of complete numbers, which are given line by line. -/
def Spells (mappings : Text) (lines : List (List (List Int))) : Prop :=
  Lists Numbers mappings lines

/-- The numbers that are read from mappings. -/
def Reads (mappings : Text) (lines : List (List (List Int))) : Prop :=
  Lists (fun segment ns => Vlq.read segment = .ok ns) mappings lines

lemma forall_mem_segmentsOf {P : Char → Prop} {line : Text} :
    (∀ segment ∈ segmentsOf line, ∀ c ∈ segment, P c) ↔ ∀ c ∈ line, c = ',' ∨ P c := by
  rw [← Text.forall_mem_splitOn]
  constructor
  · intro h segment hsegment c hc
    refine h segment (List.mem_filter.2 ⟨hsegment, ?_⟩) c hc
    simpa using List.ne_nil_of_mem hc
  · intro h segment hsegment
    exact h segment (List.mem_filter.1 hsegment).1

lemma segmentsOf_map_standIn (line : Text) :
    segmentsOf (line.map standIn) = (segmentsOf line).map (List.map standIn) := by
  rw [segmentsOf, segmentsOf, Text.splitOn_map (standIn_eq_iff (Or.inr rfl)), List.filter_map]
  congr 1
  refine List.filter_congr fun segment _ => ?_
  cases segment <;> rfl

/-- A condition on the characters of the segments is one on those of the mappings. -/
lemma lists_and {P : Char → Prop} {R : Text → List Int → Prop} {mappings : Text}
    {lines : List (List (List Int))} :
    Lists (fun segment ns => (∀ c ∈ segment, P c) ∧ R segment ns) mappings lines ↔
      (∀ c ∈ mappings, c = ';' ∨ c = ',' ∨ P c) ∧ Lists R mappings lines := by
  simp only [Lists, List.forall₂_and_left, forall_mem_segmentsOf, Text.forall_mem_splitOn]

lemma lists_map_standIn {R : Text → List Int → Prop} {mappings : Text}
    {lines : List (List (List Int))} :
    Lists R (mappings.map standIn) lines ↔
      Lists (fun segment ns => R (segment.map standIn) ns) mappings lines := by
  simp only [Lists, Text.splitOn_map (standIn_eq_iff (Or.inl rfl)), List.forall₂_map_left_iff,
    segmentsOf_map_standIn]

/-- Mappings that spell numbers have no stray characters, and the numbers are those read. -/
theorem spells_iff {mappings : Text} {lines : List (List (List Int))} :
    Spells mappings lines ↔
      (∀ c ∈ mappings, HasPart c) ∧ Reads mappings lines := by
  have hnumbers : (Numbers : Text → List Int → Prop) =
      fun segment ns => (∀ c ∈ segment, InAlphabet c) ∧ Vlq.read segment = .ok ns := by
    funext segment ns
    exact propext Vlq.numbers_iff
  rw [Spells, hnumbers, lists_and]
  rfl

/-- **What is read.** Numbers are read from mappings if no character is above `z`, and they are
those that the mappings spell with the stray characters replaced. -/
theorem reads_iff {mappings : Text} {lines : List (List (List Int))} :
    Reads mappings lines ↔
      (∀ c ∈ mappings, c ≤ 'z') ∧ Spells (mappings.map standIn) lines := by
  have hread : (fun (segment : Text) ns => Vlq.read segment = .ok ns) =
      fun segment ns => (∀ c ∈ segment, c ≤ 'z') ∧ Vlq.read (segment.map standIn) = .ok ns := by
    funext segment ns
    exact propext read_eq_ok_iff
  have hbelow (c : Char) : (c = ';' ∨ c = ',' ∨ c ≤ 'z') ↔ c ≤ 'z' := by
    constructor
    · rintro (rfl | rfl | h)
      · decide
      · decide
      · exact h
    · exact fun h => Or.inr (Or.inr h)
  have hparts : ∀ c ∈ mappings.map standIn, HasPart c := by
    intro c hc
    obtain ⟨d, -, rfl⟩ := List.mem_map.1 hc
    exact hasPart_standIn d
  rw [spells_iff, and_iff_right hparts, Reads, Reads, lists_map_standIn]
  conv_lhs => rw [hread]
  rw [lists_and]
  simp only [hbelow]

end SourceMap

end Retrace
