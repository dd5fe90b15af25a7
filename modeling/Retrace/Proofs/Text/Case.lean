import Mathlib
import Retrace.Text.Case

/-!
# Small letters stay small

A text in small letters is not changed by putting it into small letters again, and neither is any
part of it (`lower_eq_self_of_infix`).  So a key that is cut out of a name in small letters is equal
to another one up to case only if it is that one.

The table of letters decides this: no run of capital letters goes to code points of another run, or
of its own.
-/

namespace Retrace.Text

/-- A character that stays as it is wherever it stands in a text put into small letters. -/
def Small (c : Char) : Prop := ∀ before after, lowerChar before c after = [c]

/-! ## The table -/

/-- Whether no code point that `r` goes to is one of `s`: their ranges do not meet, or the steps
keep them apart. -/
def CaseRun.avoids (r s : CaseRun) : Bool :=
  r.target + (r.last - r.first) < s.first || s.last < r.target ||
    ((r.first = r.last || r.step = s.step) && r.target % s.step ≠ s.first % s.step)

/-- Whether all code points that a run goes to are those of characters. -/
def CaseRun.isValid (r : CaseRun) : Bool :=
  r.target + (r.last - r.first) < 0xD800 ||
    (0xDFFF < r.target && r.target + (r.last - r.first) < 0x110000)

/-- The capital i with a dot, which has two small letters and so is in no run, as a run. -/
def dottedRun : CaseRun := ⟨0x130, 0x130, 1, 0x130⟩

lemma lowerRuns_avoid : ∀ r ∈ lowerRuns, ∀ s ∈ dottedRun :: lowerRuns, r.avoids s = true := by
  have h : (lowerRuns.all fun r => (dottedRun :: lowerRuns).all r.avoids) = true := by
    decide +kernel
  simpa only [List.all_eq_true] using h

lemma lowerRuns_isValid : ∀ r ∈ lowerRuns, r.isValid = true := by
  have h : lowerRuns.all CaseRun.isValid = true := by decide +kernel
  simpa only [List.all_eq_true] using h

lemma CaseRun.target?_eq_some_iff {r : CaseRun} {n m : Nat} :
    r.target? n = some m ↔
      (r.first ≤ n ∧ n ≤ r.last ∧ (n - r.first) % r.step = 0) ∧ m = r.target + (n - r.first) := by
  simp [target?, eq_comm]

lemma CaseRun.target?_eq_none_of_avoids {r s : CaseRun} {n m : Nat} (h : r.avoids s = true)
    (hm : r.target? n = some m) : s.target? m = none := by
  obtain ⟨⟨hfirst, hlast, hstep⟩, rfl⟩ := target?_eq_some_iff.1 hm
  rw [target?, if_neg]
  rintro ⟨hlow, hhigh, hmod⟩
  simp only [avoids, Bool.or_eq_true, Bool.and_eq_true, decide_eq_true_eq] at h
  rcases h with (hbelow | habove) | ⟨hsteps, hapart⟩
  · omega
  · omega
  · -- The code point is met by both, so it tells what both leave on division by the step.
    have hr : (r.target + (n - r.first)) % s.step = r.target % s.step := by
      rcases hsteps with hsingle | hsame
      · rw [show n - r.first = 0 by omega, Nat.add_zero]
      · rw [Nat.add_mod, ← hsame, hstep, Nat.add_zero, Nat.mod_mod]
    have hs : (r.target + (n - r.first)) % s.step = s.first % s.step := by
      rw [show r.target + (n - r.first) = s.first + (r.target + (n - r.first) - s.first) by omega,
        Nat.add_mod, hmod, Nat.add_zero, Nat.mod_mod]
    exact hapart (hr.symm.trans hs)

/-- The code point that a run goes to is that of a character. -/
lemma CaseRun.toNat_target {r : CaseRun} {n m : Nat} (h : r.isValid = true)
    (hm : r.target? n = some m) : (Char.ofNat m).toNat = m := by
  obtain ⟨⟨hfirst, hlast, -⟩, rfl⟩ := target?_eq_some_iff.1 hm
  simp only [isValid, Bool.or_eq_true, Bool.and_eq_true, decide_eq_true_eq] at h
  rw [Char.ofNat, dif_pos (show Nat.isValidChar _ by unfold Nat.isValidChar; omega)]
  rfl

/-! ## Characters -/

lemma toLower_of_not_capital {c : Char} (h : ¬ (65 ≤ c.toNat ∧ c.toNat ≤ 90)) :
    c.toLower = c := by
  rw [Char.toLower, dif_neg]
  exact h

lemma toNat_toLower {c : Char} (h : 65 ≤ c.toNat ∧ c.toNat ≤ 90) :
    c.toLower.toNat = 97 + (c.toNat - 65) := by
  have hlower : c.toLower.toNat = (c.val + 32).toNat := by
    rw [Char.toLower, dif_pos]
    · rfl
    · exact h
  rw [hlower, UInt32.toNat_add]
  change (c.toNat + 32) % 2 ^ 32 = _
  omega

lemma toLower_of_target?_eq_none {c : Char} (h : ∀ s ∈ lowerRuns, s.target? c.toNat = none) :
    c.toLower = c := by
  refine toLower_of_not_capital fun hcapital => ?_
  have hrun := h ⟨65, 90, 1, 97⟩ (by decide)
  rw [CaseRun.target?, if_pos ⟨hcapital.1, hcapital.2, Nat.mod_one _⟩] at hrun
  cases hrun

lemma small_of_target?_eq_none {c : Char}
    (h : ∀ s ∈ dottedRun :: lowerRuns, s.target? c.toNat = none) : Small c := by
  intro before after
  have hruns : ∀ s ∈ lowerRuns, s.target? c.toNat = none := fun s hs =>
    h s (List.mem_cons_of_mem _ hs)
  have hdotted : c ≠ 'İ' := by
    rintro rfl
    exact absurd (h dottedRun List.mem_cons_self) (by decide)
  have hsigma : c ≠ 'Σ' := by
    rintro rfl
    exact absurd (hruns ⟨931, 939, 1, 963⟩ (by decide)) (by decide)
  rw [lowerChar, toLower_of_target?_eq_none hruns, if_neg hsigma, if_neg hdotted, mapByRuns,
    List.findSome?_eq_none_iff.2 hruns, ite_self]

/-- What a run goes to is small. -/
lemma small_target {r : CaseRun} (hr : r ∈ lowerRuns) {n m : Nat} (hm : r.target? n = some m) :
    Small (Char.ofNat m) := by
  refine small_of_target?_eq_none fun s hs => ?_
  rw [CaseRun.toNat_target (lowerRuns_isValid r hr) hm]
  exact CaseRun.target?_eq_none_of_avoids (lowerRuns_avoid r hr s hs) hm

lemma small_mapByRuns {c : Char} (hdotted : c ≠ 'İ') : Small (mapByRuns lowerRuns c) := by
  rw [mapByRuns]
  cases h : lowerRuns.findSome? (CaseRun.target? c.toNat) with
  | none =>
    refine small_of_target?_eq_none fun s hs => ?_
    rcases List.mem_cons.1 hs with rfl | hs
    · rw [CaseRun.target?, if_neg]
      rintro ⟨hlow, hhigh, -⟩
      exact hdotted (Char.toNat_inj.1 (Nat.le_antisymm hhigh hlow))
    · exact List.findSome?_eq_none_iff.1 h s hs
  | some m =>
    obtain ⟨r, hr, hm⟩ := List.exists_of_findSome?_eq_some h
    exact small_target hr hm

/-- The code points below the capital letters and those from there to the end of ASCII, as runs that
go to themselves. -/
def plainRuns : List CaseRun := [⟨0, 64, 1, 0⟩, ⟨91, 127, 1, 91⟩]

lemma plainRuns_avoid : ∀ r ∈ plainRuns, ∀ s ∈ dottedRun :: lowerRuns, r.avoids s = true := by
  have h : (plainRuns.all fun r => (dottedRun :: lowerRuns).all r.avoids) = true := by
    decide +kernel
  simpa only [List.all_eq_true] using h

lemma small_toLower {c : Char} (hascii : c.toNat < 128) : Small c.toLower := by
  by_cases hcapital : 65 ≤ c.toNat ∧ c.toNat ≤ 90
  · have hrun : CaseRun.target? c.toNat ⟨65, 90, 1, 97⟩ = some c.toLower.toNat := by
      rw [toNat_toLower hcapital, CaseRun.target?, if_pos ⟨hcapital.1, hcapital.2, Nat.mod_one _⟩]
    have hsmall := small_target (by decide) hrun
    rwa [Char.ofNat_toNat] at hsmall
  · rw [toLower_of_not_capital hcapital]
    have hrun : ∃ r ∈ plainRuns, r.target? c.toNat = some c.toNat := by
      by_cases hlow : c.toNat ≤ 64
      · exact ⟨⟨0, 64, 1, 0⟩, by simp [plainRuns], by simp [CaseRun.target?, hlow, Nat.mod_one]⟩
      · refine ⟨⟨91, 127, 1, 91⟩, by simp [plainRuns], CaseRun.target?_eq_some_iff.2 ?_⟩
        dsimp only
        exact ⟨⟨by omega, by omega, Nat.mod_one _⟩, by omega⟩
    obtain ⟨r, hr, hm⟩ := hrun
    exact small_of_target?_eq_none fun s hs =>
      CaseRun.target?_eq_none_of_avoids (plainRuns_avoid r hr s hs) hm

/-- The small letters of a character are small. -/
lemma small_of_mem_lowerChar {before after : Text} {c x : Char}
    (hx : x ∈ lowerChar before c after) : Small x := by
  have hinNoRun (y : Char) (h : (dottedRun :: lowerRuns).all
      (fun s => (s.target? y.toNat).isNone) = true) : Small y :=
    small_of_target?_eq_none fun s hs => Option.isNone_iff_eq_none.1 (List.all_eq_true.1 h s hs)
  unfold lowerChar at hx
  split at hx
  · next hascii => exact List.mem_singleton.1 hx ▸ small_toLower hascii
  · split at hx
    · split at hx
      · exact List.mem_singleton.1 hx ▸ hinNoRun 'ς' (by decide +kernel)
      · exact List.mem_singleton.1 hx ▸ hinNoRun 'σ' (by decide +kernel)
    · split at hx
      · rcases List.mem_pair.1 hx with rfl | rfl
        · exact hinNoRun 'i' (by decide +kernel)
        · exact hinNoRun '\u0307' (by decide +kernel)
      · next hdotted => exact List.mem_singleton.1 hx ▸ small_mapByRuns hdotted

/-! ## Texts -/

lemma small_of_mem_lowerAfter {before t : Text} {x : Char} (hx : x ∈ lowerAfter before t) :
    Small x := by
  induction t generalizing before with
  | nil => cases hx
  | cons c t ih =>
    rcases List.mem_append.1 hx with hx | hx
    · exact small_of_mem_lowerChar hx
    · exact ih hx

lemma lowerAfter_eq_self {before t : Text} (h : ∀ c ∈ t, Small c) : lowerAfter before t = t := by
  induction t generalizing before with
  | nil => rfl
  | cons c t ih =>
    rw [lowerAfter, h c List.mem_cons_self, ih fun x hx => h x (List.mem_cons_of_mem _ hx)]
    rfl

/-- **Small letters stay small.** No part of a text in small letters is changed by putting it into
small letters. -/
theorem lower_eq_self_of_infix {t u : Text} (h : u <:+: lower t) : lower u = u :=
  lowerAfter_eq_self fun _ hc => small_of_mem_lowerAfter (h.mem hc)

end Retrace.Text
