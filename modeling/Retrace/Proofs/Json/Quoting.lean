import Mathlib.Tactic
import Retrace.Json.Parser
import Retrace.Json.Printer

/-!
# Texts between quotes

`printedText` writes a text between quotes and `readText` reads it back, whatever its characters
(`readText_printed`).  A character is written as itself, after a backslash, by its code, or by the
codes of the two halves of a pair; `readSpelling_printedChar` treats the four cases.
-/

namespace Retrace.Json

/-! ## Hexadecimal digits -/

lemma hexValue?_digitChar {n : Nat} (h : n < 16) : Text.hexValue? (Nat.digitChar n) = some n := by
  have hall : ∀ m : Fin 16, Text.hexValue? (Nat.digitChar m.val) = some m.val := by decide
  exact hall ⟨n, h⟩

/-- A code is written with four digits. -/
lemma hexDigits_four {n : Nat} (h : n < 0x10000) :
    Text.hexDigits 4 n =
      [Nat.digitChar (n / 4096), Nat.digitChar (n / 256 % 16), Nat.digitChar (n / 16 % 16),
        Nat.digitChar (n % 16)] := by
  have hzero : Nat.digitChar 0 = '0' := rfl
  have hstep (m : Nat) : Nat.toDigits 16 m =
      if m < 16 then [Nat.digitChar m] else Nat.toDigits 16 (m / 16) ++ [Nat.digitChar (m % 16)] :=
    Nat.toDigits_eq_if (by decide)
  have h256 : n / 16 / 16 = n / 256 := by omega
  have h4096 : n / 16 / 16 / 16 = n / 4096 := by omega
  rw [Text.hexDigits]
  by_cases h1 : n < 16
  · have hdigits : Nat.toDigits 16 n = [Nat.digitChar n] := by rw [hstep, if_pos h1]
    rw [hdigits, show n / 4096 = 0 by omega, show n / 256 % 16 = 0 by omega,
      show n / 16 % 16 = 0 by omega, show n % 16 = n by omega, hzero]
    rfl
  by_cases h2 : n / 16 < 16
  · have hdigits : Nat.toDigits 16 n = [Nat.digitChar (n / 16), Nat.digitChar (n % 16)] := by
      rw [hstep, if_neg h1, hstep, if_pos h2]
      rfl
    rw [hdigits, show n / 4096 = 0 by omega, show n / 256 % 16 = 0 by omega,
      show n / 16 % 16 = n / 16 by omega, hzero]
    rfl
  by_cases h3 : n / 16 / 16 < 16
  · have hdigits : Nat.toDigits 16 n =
        [Nat.digitChar (n / 16 / 16), Nat.digitChar (n / 16 % 16), Nat.digitChar (n % 16)] := by
      rw [hstep, if_neg h1, hstep, if_neg h2, hstep, if_pos h3]
      rfl
    rw [hdigits, h256, show n / 4096 = 0 by omega, show n / 256 % 16 = n / 256 by omega, hzero]
    rfl
  · have hdigits : Nat.toDigits 16 n =
        [Nat.digitChar (n / 16 / 16 / 16), Nat.digitChar (n / 16 / 16 % 16),
          Nat.digitChar (n / 16 % 16), Nat.digitChar (n % 16)] := by
      rw [hstep, if_neg h1, hstep, if_neg h2, hstep, if_neg h3, hstep, if_pos (by omega)]
      rfl
    rw [hdigits, h256, show n / 256 / 16 = n / 4096 by omega]
    rfl

lemma hexCode?_hexDigits {n : Nat} (h : n < 0x10000) :
    ∃ a b c d, Text.hexDigits 4 n = [a, b, c, d] ∧ hexCode? a b c d = some n := by
  refine ⟨_, _, _, _, hexDigits_four h, ?_⟩
  rw [hexCode?, hexValue?_digitChar (by omega), hexValue?_digitChar (by omega),
    hexValue?_digitChar (by omega), hexValue?_digitChar (by omega)]
  simp only [Option.bind_eq_bind, Option.bind_some, Option.pure_def, Option.some.injEq]
  omega

/-! ## One character -/

lemma toNat_valid (c : Char) : c.toNat < 0xD800 ∨ 0xDFFF < c.toNat ∧ c.toNat < 0x110000 := by
  simpa [UInt32.isValidChar, Nat.isValidChar] using c.valid

/-- A character that is written by one code. -/
lemma readCode_codeEscape {c : Char} (hc : c.toNat < 0x10000) (next : Char) (rest : Text) :
    readCode ('u' :: (Text.hexDigits 4 c.toNat ++ next :: rest)) = .ok (c, next :: rest) := by
  obtain ⟨h₁, h₂, h₃, h₄, hdigits, hcode⟩ := hexCode?_hexDigits hc
  have hhigh : isHighHalf c.toNat = false := by
    have := toNat_valid c
    simp only [isHighHalf, Bool.and_eq_false_iff, decide_eq_false_iff_not]
    omega
  have hlow : isLowHalf c.toNat = false := by
    have := toNat_valid c
    simp only [isLowHalf, Bool.and_eq_false_iff, decide_eq_false_iff_not]
    omega
  have hchar : codeChar c.toNat = c := by
    rw [codeChar, hhigh, hlow]
    exact Char.ofNat_toNat c
  rw [hdigits]
  simp only [List.cons_append, List.nil_append, readCode, hcode]
  split
  · rw [hhigh, hchar]
    rfl
  · rw [hchar]

/-- A character that is written by the codes of the two halves of a pair. -/
lemma readCode_pair {c : Char} (hc : ¬ c.toNat < 0x10000) (next : Char) (rest : Text) :
    readCode ('u' :: (Text.hexDigits 4 (0xD800 + (c.toNat - 0x10000) / 0x400) ++
      (codeEscape (0xDC00 + (c.toNat - 0x10000) % 0x400) ++ next :: rest))) =
      .ok (c, next :: rest) := by
  have hvalid := toNat_valid c
  obtain ⟨h₁, h₂, h₃, h₄, hhigh, hhighCode⟩ :=
    hexCode?_hexDigits (n := 0xD800 + (c.toNat - 0x10000) / 0x400) (by omega)
  obtain ⟨l₁, l₂, l₃, l₄, hlow, hlowCode⟩ :=
    hexCode?_hexDigits (n := 0xDC00 + (c.toNat - 0x10000) % 0x400) (by omega)
  have hisHigh : isHighHalf (0xD800 + (c.toNat - 0x10000) / 0x400) = true := by
    simp only [isHighHalf, Bool.and_eq_true, decide_eq_true_eq]
    omega
  have hisLow : isLowHalf (0xDC00 + (c.toNat - 0x10000) % 0x400) = true := by
    simp only [isLowHalf, Bool.and_eq_true, decide_eq_true_eq]
    omega
  have hpair : pairChar (0xD800 + (c.toNat - 0x10000) / 0x400)
      (0xDC00 + (c.toNat - 0x10000) % 0x400) = c := by
    have hcode : 0x10000 + (0xD800 + (c.toNat - 0x10000) / 0x400 - 0xD800) * 0x400 +
        (0xDC00 + (c.toNat - 0x10000) % 0x400 - 0xDC00) = c.toNat := by omega
    rw [pairChar, hcode, Char.ofNat_toNat]
  rw [hhigh, codeEscape, hlow]
  simp only [List.cons_append, List.nil_append, readCode, hhighCode, hlowCode, hisHigh, hisLow,
    if_true, hpair]

lemma readSpelling_codeEscape (q : Text) {n : Nat} (rest : Text) :
    readSpelling q (codeEscape n ++ rest) =
      (readCode ('u' :: (Text.hexDigits 4 n ++ rest))).map fun (c, rest) => (some c, rest) := by
  rw [codeEscape, List.cons_append, List.cons_append, readSpelling]

/-- A written character is read back, up to the character that follows. -/
lemma readSpelling_printedChar (q : Text) (c next : Char) (rest : Text) :
    readSpelling q (printedChar c ++ next :: rest) = .ok (some c, next :: rest) := by
  rw [printedChar]
  split_ifs with hquote hplain hshort
  · rcases hquote with rfl | rfl <;> rfl
  · simp only [not_or] at hquote
    have hsmall : ¬ c.toNat < 0x20 := by omega
    simp only [List.cons_append, List.nil_append]
    unfold readSpelling
    split
    · next heq => exact absurd heq (List.cons_ne_nil _ _)
    · next heq => exact absurd (List.cons.inj heq).1 hquote.1
    · next heq => exact absurd (List.cons.inj heq).1 hquote.2
    · next heq => exact absurd (List.cons.inj heq).1 hquote.2
    · next heq => exact absurd (List.cons.inj heq).1 hquote.2
    · next heq =>
      obtain ⟨rfl, rfl⟩ := List.cons.inj heq
      rw [if_neg hsmall]
  · rw [readSpelling_codeEscape, readCode_codeEscape hshort]
    rfl
  · rw [List.append_assoc, readSpelling_codeEscape, readCode_pair hshort]
    rfl

/-! ## Texts -/

lemma printedChar_ne_nil (c : Char) : printedChar c ≠ [] := by
  rw [printedChar]
  split_ifs
  · exact List.cons_ne_nil _ _
  · exact List.cons_ne_nil _ _
  · exact List.cons_ne_nil _ _
  · exact List.append_ne_nil_of_left_ne_nil (List.cons_ne_nil _ _) _

lemma length_le_length_printed (t : Text) : t.length ≤ (t.flatMap printedChar).length := by
  induction t with
  | nil => simp
  | cons c t ih =>
    have hc : 0 < (printedChar c).length := List.length_pos_iff.2 (printedChar_ne_nil c)
    rw [List.flatMap_cons, List.length_append, List.length_cons]
    omega

lemma readTextFrom_printed (q t rest : Text) {steps : Nat} (h : t.length < steps) :
    readTextFrom q steps (t.flatMap printedChar ++ '"' :: rest) = .ok (t, rest) := by
  induction t generalizing steps with
  | nil =>
    obtain ⟨steps, rfl⟩ := Nat.exists_eq_succ_of_ne_zero (by omega : steps ≠ 0)
    rfl
  | cons c t ih =>
    obtain ⟨steps, rfl⟩ := Nat.exists_eq_succ_of_ne_zero (by omega : steps ≠ 0)
    have hlength : t.length < steps := by simpa using h
    have hrest := ih hlength
    obtain ⟨next, after, hnext⟩ :
        ∃ next after, t.flatMap printedChar ++ '"' :: rest = next :: after :=
      List.exists_cons_of_ne_nil (by simp)
    rw [hnext] at hrest
    rw [List.flatMap_cons, List.append_assoc, hnext, readTextFrom, readSpelling_printedChar]
    simp only [hrest]

/-- **Round trip.** A text is read back from between its quotes. -/
theorem readText_printed (t rest : Text) {steps : Nat} (h : t.length < steps) :
    readText steps (t.flatMap printedChar ++ '"' :: rest) = .ok (t, rest) :=
  readTextFrom_printed _ t rest h

end Retrace.Json
