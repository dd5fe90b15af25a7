import Mathlib.Tactic
import Retrace.SourceMap.Vlq

/-!
# Variable-length numbers are read back

`Vlq.writeAll` writes whole numbers the standard way: the sign is folded into the lowest bit, and
the rest is cut into digits of five bits, the least first, each with a mark if more digits follow.
What it writes is complete (`Numbers`), and `Vlq.read` reads complete numbers, whatever their size,
so it reads back what was written (`read_writeAll`).
-/

namespace Retrace.Vlq

/-! ## Writing -/

/-- The characters of the base 64 alphabet, in the order of their places. -/
def alphabet : Text :=
  "ABCDEFGHIJKLMNOPQRSTUVWXYZabcdefghijklmnopqrstuvwxyz0123456789+/".toList

/-- The character at a place of the alphabet. -/
def character (place : Nat) : Char := alphabet.getD place 'A'

/-- A number with its sign as the lowest bit. -/
def folded (n : Int) : Nat := if n < 0 then 2 * n.natAbs + 1 else 2 * n.natAbs

/-- Writes bits in digits of five, the least first. -/
def writeBits (bits : Nat) : Text :=
  if bits < 32 then [character bits]
  else character (bits % 32 + 32) :: writeBits (bits / 32)

/-- Writes a number. -/
def write (n : Int) : Text := writeBits (folded n)

/-- Writes numbers one after the other. -/
def writeAll (ns : List Int) : Text := ns.flatMap write

/-! ## Digits -/

lemma place?_character {place : Nat} (h : place < 64) :
    Base64.place? (character place) = some place := by
  have hall : ∀ n : Fin 64, Base64.place? (character n) = some n.val := by decide +kernel
  exact hall ⟨place, h⟩

/-- The alphabet ends at `z`. -/
lemma not_lt_of_place? {c : Char} {place : Nat} (h : Base64.place? c = some place) :
    ¬ 'z' < c := by
  unfold Base64.place? at h
  rw [Char.not_lt]
  split_ifs at h with hupper hlower hdigit hplus hslash
  · exact Char.le_trans hupper.2 (by decide)
  · exact hlower.2
  · exact Char.le_trans hdigit.2 (by decide)
  · rw [hplus]
    decide
  · rw [hslash]
    decide

lemma digit?_of_place? {c : Char} {place : Nat} (h : Base64.place? c = some place) :
    digit? c = some ⟨place % 32, decide (32 ≤ place)⟩ := by
  rw [digit?, if_neg (not_lt_of_place? h), h]

lemma readFrom_of_last {c : Char} {place : Nat} (h : Base64.place? c = some place)
    (hlast : place < 32) (bits shift : Nat) (t : Text) :
    readFrom bits shift (c :: t) =
      (readFrom 0 0 t).map (signed (bits + place * Nat.pow 2 shift) :: ·) := by
  have hplace : place % 32 = place := Nat.mod_eq_of_lt hlast
  have hmore : decide (32 ≤ place) = false := decide_eq_false (by omega)
  rw [readFrom, digit?_of_place? h, hplace, hmore]
  cases readFrom 0 0 t <;> rfl

lemma readFrom_of_more {c : Char} {place : Nat} (h : Base64.place? c = some place)
    (hmore : 32 ≤ place) (bits shift : Nat) (t : Text) :
    readFrom bits shift (c :: t) =
      readFrom (bits + place % 32 * Nat.pow 2 shift) (shift + 5) t := by
  rw [readFrom, digit?_of_place? h, decide_eq_true hmore]
  rfl

/-! ## Complete numbers -/

/-- A text is one complete number with these bits: digits that say that more follow, and a last one
that does not. -/
inductive Complete : Text → Nat → Prop
  | last {c : Char} {place : Nat} (h : Base64.place? c = some place) (hlast : place < 32) :
      Complete [c] place
  | more {c : Char} {place : Nat} {t : Text} {bits : Nat} (h : Base64.place? c = some place)
      (hmore : 32 ≤ place) (ht : Complete t bits) : Complete (c :: t) (place % 32 + 32 * bits)

/-- A text is some complete numbers one after the other. -/
inductive Numbers : Text → List Int → Prop
  | nil : Numbers [] []
  | cons {t rest : Text} {bits : Nat} {ns : List Int} (ht : Complete t bits)
      (hrest : Numbers rest ns) : Numbers (t ++ rest) (signed bits :: ns)

lemma signed_folded (n : Int) : signed (folded n) = n := by
  rw [signed, folded]
  split_ifs <;> omega

lemma complete_writeBits (n : Nat) : Complete (writeBits n) n := by
  induction n using Nat.strongRecOn with
  | ind n ih =>
    rw [writeBits]
    by_cases hn : n < 32
    · rw [if_pos hn]
      exact .last (place?_character (by omega)) hn
    · have hbits : (n % 32 + 32) % 32 + 32 * (n / 32) = n := by omega
      have hfirst : Base64.place? (character (n % 32 + 32)) = some (n % 32 + 32) :=
        place?_character (by omega)
      have hmore := Complete.more hfirst (by omega) (ih (n / 32) (by omega))
      rw [hbits] at hmore
      rw [if_neg hn]
      exact hmore

lemma numbers_writeAll (ns : List Int) : Numbers (writeAll ns) ns := by
  induction ns with
  | nil => exact .nil
  | cons n ns ih =>
    have hcons := Numbers.cons (complete_writeBits (folded n)) ih
    rw [signed_folded] at hcons
    rw [writeAll, List.flatMap_cons]
    exact hcons

/-! ## Reading -/

/-- A digit of five bits and the bits after it are read on top of those that are there. -/
lemma bits_more (bits digit rest shift : Nat) :
    bits + digit * Nat.pow 2 shift + rest * Nat.pow 2 (shift + 5) =
      bits + (digit + 32 * rest) * Nat.pow 2 shift := by
  have hpow : Nat.pow 2 (shift + 5) = 32 * Nat.pow 2 shift := by
    change 2 ^ (shift + 5) = 32 * 2 ^ shift
    rw [Nat.pow_add]
    omega
  rw [hpow]
  ring

lemma signed_unshifted (bits : Nat) : signed (0 + bits * Nat.pow 2 0) = signed bits := by
  change signed (0 + bits * 1) = signed bits
  rw [Nat.zero_add, Nat.mul_one]

/-- The bits of a complete number are read on top of those that are there, from the shift on. -/
lemma readFrom_of_complete {t : Text} {n : Nat} (h : Complete t n) (bits shift : Nat)
    (rest : Text) :
    readFrom bits shift (t ++ rest) =
      (readFrom 0 0 rest).map (signed (bits + n * Nat.pow 2 shift) :: ·) := by
  induction h generalizing bits shift with
  | last h hlast => exact readFrom_of_last h hlast bits shift rest
  | more h hmore _ ih => rw [List.cons_append, readFrom_of_more h hmore, ih, bits_more]

lemma read_of_numbers {t : Text} {ns : List Int} (h : Numbers t ns) : read t = .ok ns := by
  rw [read]
  induction h with
  | nil => rfl
  | cons ht _ ih =>
    rw [readFrom_of_complete ht, ih, signed_unshifted]
    rfl

/-- **Round trip.** Written numbers are read back. -/
theorem read_writeAll (ns : List Int) : read (writeAll ns) = .ok ns :=
  read_of_numbers (numbers_writeAll ns)

/-- Reading finds a number, unless there is nothing to read. -/
lemma ne_nil_of_readFrom {bits shift : Nat} {t : Text} {ns : List Int}
    (h : readFrom bits shift t = .ok ns) (ht : t ≠ [] ∨ shift ≠ 0) : ns ≠ [] := by
  induction t generalizing bits shift with
  | nil =>
    have hshift : shift ≠ 0 := ht.resolve_left (not_not_intro rfl)
    rw [readFrom, if_neg (fun hstart => hshift hstart.2)] at h
    cases h
  | cons c t ih =>
    rw [readFrom] at h
    split at h
    · cases h
    · dsimp only at h
      split at h
      · exact ih h (Or.inr (Nat.succ_ne_zero _))
      · split at h
        · cases h
        · obtain rfl := Except.ok.inj h
          exact List.cons_ne_nil _ _

/-! ## The written characters -/

lemma comma_not_mem_alphabet : ',' ∉ alphabet := by decide +kernel

lemma semicolon_not_mem_alphabet : ';' ∉ alphabet := by decide +kernel

lemma character_mem_alphabet (place : Nat) : character place ∈ alphabet := by
  rw [character, List.getD_eq_getElem?_getD]
  cases hget : alphabet[place]? with
  | none => decide
  | some c => exact List.mem_of_getElem? hget

lemma mem_alphabet_of_mem_writeBits {n : Nat} {c : Char} (h : c ∈ writeBits n) :
    c ∈ alphabet := by
  induction n using Nat.strongRecOn with
  | ind n ih =>
    rw [writeBits] at h
    by_cases hn : n < 32
    · rw [if_pos hn, List.mem_singleton] at h
      exact h ▸ character_mem_alphabet n
    · rw [if_neg hn, List.mem_cons] at h
      rcases h with rfl | h
      · exact character_mem_alphabet _
      · exact ih (n / 32) (by omega) h

lemma mem_alphabet_of_mem_writeAll {ns : List Int} {c : Char} (h : c ∈ writeAll ns) :
    c ∈ alphabet := by
  obtain ⟨n, -, hc⟩ := List.mem_flatMap.1 h
  exact mem_alphabet_of_mem_writeBits hc

lemma writeAll_cons_ne_nil (n : Int) (ns : List Int) : writeAll (n :: ns) ≠ [] := by
  have hwrite : write n ≠ [] := by
    rw [write, writeBits]
    split
    · exact List.cons_ne_nil _ _
    · exact List.cons_ne_nil _ _
  rw [writeAll, List.flatMap_cons]
  exact List.append_ne_nil_of_left_ne_nil hwrite _

end Retrace.Vlq
