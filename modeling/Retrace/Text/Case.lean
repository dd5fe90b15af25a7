import Retrace.Text.CaseTable

/-!
# Capital and small letters

A text in capital letters or in small ones, by the full case mappings of Unicode 14.  The capital
sigma becomes the small final one at the end of a word.
-/

namespace Retrace.Text

/-- The code point that a run sends a code point to. -/
def CaseRun.target? (n : Nat) (r : CaseRun) : Option Nat :=
  if r.first ≤ n ∧ n ≤ r.last ∧ (n - r.first) % r.step = 0 then some (r.target + (n - r.first))
  else none

/-- The character that one of some runs sends a character to, or the character itself. -/
def mapByRuns (runs : List CaseRun) (c : Char) : Char :=
  match runs.findSome? (CaseRun.target? c.toNat) with
  | some n => Char.ofNat n
  | none => c

/-- Whether a code point is in one of some runs. -/
def inRuns (runs : List (Nat × Nat)) (n : Nat) : Bool :=
  runs.any fun (first, last) => first ≤ n && n ≤ last

/-- The capital letters of a character. -/
def upperChar (c : Char) : Text :=
  if c.toNat < 128 then [c.toUpper]
  else
    match upperMany.lookup c.toNat with
    | some ns => ns.map Char.ofNat
    | none => [mapByRuns upperRuns c]

/-- A text in capital letters. -/
def upper (t : Text) : Text := t.flatMap upperChar

/-- Whether the first character that case does not ignore is cased. -/
def leadsCased : Text → Bool
  | [] => false
  | c :: t => if inRuns ignoredRuns c.toNat then leadsCased t else inRuns casedRuns c.toNat

/-- The small letters of a character with the text before it, read backwards, and after it. -/
def lowerChar (before : Text) (c : Char) (after : Text) : Text :=
  if c.toNat < 128 then [c.toLower]
  else if c = 'Σ' then [if leadsCased before && !leadsCased after then 'ς' else 'σ']
  else if c = 'İ' then ['i', '\u0307']
  else [mapByRuns lowerRuns c]

/-- A text in small letters, after the text `before`, which is read backwards. -/
def lowerAfter (before : Text) : Text → Text
  | [] => []
  | c :: t => lowerChar before c t ++ lowerAfter (c :: before) t

/-- A text in small letters. -/
def lower (t : Text) : Text := lowerAfter [] t

end Retrace.Text
