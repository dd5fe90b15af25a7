import Mathlib.Tactic
import Retrace.Numeral

/-!
# Decimal numerals

`Numeral.digits` writes a natural number and `Numeral.read` reads it back.  Both are subject to the
limit on the number of digits, and `length_digits_succ_le` says how far a step to the next number
can lead towards it.  A number that is read is within it (`writable_of_read`).
-/

namespace Retrace.Numeral

lemma isDigit_of_mem_digits {n : Nat} {c : Char} (h : c ∈ digits n) : c.isDigit = true :=
  Nat.isDigit_of_mem_toDigits (by decide) (by decide) h

lemma digits_ne_nil (n : Nat) : digits n ≠ [] := Nat.toDigits_ne_nil

/-- Only zero is written with a leading zero. -/
lemma head?_digits_ne_zero {n : Nat} (h : n ≠ 0) : (digits n).head? ≠ some '0' := by
  induction n using Nat.strong_induction_on with
  | _ n ih =>
    rw [digits, Nat.toDigits_eq_if (by decide)]
    split
    · next hsmall =>
      have hall : ∀ m : Fin 10, m.val ≠ 0 → [Nat.digitChar m.val].head? ≠ some '0' := by decide
      exact hall ⟨n, hsmall⟩ h
    · next hlarge =>
      have hrest := ih (n / 10) (by omega) (by omega)
      rw [digits] at hrest
      rwa [List.head?_append_of_ne_nil _ Nat.toDigits_ne_nil]

@[simp] lemma value_digits (n : Nat) : value (digits n) = n :=
  Nat.ofDigitChars_ten_toDigits

lemma length_digits_le_iff {n k : Nat} (hk : 0 < k) :
    (digits n).length ≤ k ↔ n < 10 ^ k :=
  Nat.length_toDigits_le_iff (by decide) hk

lemma length_digits_ten_pow (k : Nat) : (digits (10 ^ k)).length = k + 1 := by
  have hupper : (digits (10 ^ k)).length ≤ k + 1 := by
    rw [length_digits_le_iff (by omega)]
    exact Nat.pow_lt_pow_right (by decide) (by omega)
  have hlower : ¬ (digits (10 ^ k)).length ≤ k := by
    intro hle
    have hpositive : 0 < (digits (10 ^ k)).length := List.length_pos_iff.2 (digits_ne_nil _)
    rw [length_digits_le_iff (by omega)] at hle
    exact lt_irrefl _ hle
  omega

/-- **Round trip.** A number is read back from its digits as far as the limit allows. -/
theorem read_digits {n : Nat} (h : (digits n).length ≤ digitLimit) : read (digits n) = .ok n := by
  rw [read, if_neg (by omega), value_digits]

lemma write_of_length_le {n : Int} (h : (digits n.natAbs).length ≤ digitLimit) :
    write n = .ok (signedDigits n) := by
  rw [write, if_neg (by omega)]

lemma signedDigits_natCast (n : Nat) : signedDigits n = digits n := by
  rw [signedDigits, if_neg (by omega), Int.natAbs_natCast]

/-- The next number has at most one digit more. -/
lemma length_digits_succ_le {n k : Nat} (h : (digits n).length < k) :
    (digits (n + 1)).length ≤ k := by
  have hlength : 0 < (digits n).length := List.length_pos_iff.2 (digits_ne_nil n)
  have hn : n < 10 ^ (digits n).length := (length_digits_le_iff hlength).1 le_rfl
  have hpow : 10 ^ (digits n).length < 10 ^ k := Nat.pow_lt_pow_right (by decide) h
  exact (length_digits_le_iff (by omega)).2 (by omega)

/-- A whole number has no more digits than are written. -/
def Writable (n : Int) : Prop := (digits n.natAbs).length ≤ digitLimit

lemma value_lt {ds : Text} (h : ∀ c ∈ ds, c.isDigit = true) :
    value ds < 10 ^ ds.length := by
  induction ds using List.reverseRecOn with
  | nil => exact Nat.one_pos
  | append_singleton ds c ih =>
    have hds := ih fun d hd => h d (List.mem_append_left _ hd)
    have hdigit : c.toNat - '0'.toNat ≤ 9 := by
      have hc := h c (by simp)
      simp only [Char.isDigit, Bool.and_eq_true, decide_eq_true_eq] at hc
      have hle : c.toNat ≤ 57 := hc.2
      have hzero : '0'.toNat = 48 := rfl
      omega
    have hstep : value (ds ++ [c]) = 10 * value ds + (c.toNat - '0'.toNat) := by
      simp [value]
    rw [hstep, List.length_append, List.length_singleton, Nat.pow_succ]
    omega

/-- A number that is read has no more digits than are written. -/
lemma writable_of_read {ds : Text} {n : Nat} (hds : ∀ c ∈ ds, c.isDigit = true)
    (h : read ds = .ok n) : Writable n := by
  unfold read at h
  split at h
  · cases h
  · next hlength =>
    obtain rfl := Except.ok.inj h
    rw [Writable, Int.natAbs_natCast, length_digits_le_iff (by decide)]
    exact (value_lt hds).trans_le
      (Nat.pow_le_pow_right (by decide) (Nat.le_of_not_lt hlength))

end Retrace.Numeral
