import Mathlib
import Retrace.Config.Load
import Retrace.Proofs.Text.Cutting

/-!
# Replacing references to variables

A text with references is taken apart from left to right: the literal text up to the leftmost
reference, the name in it, and then the text behind it in the same way (`Reads`).  There is one way
to do so for every text (`reads_unique`), although a reference may begin inside what looks like
another.  `Environment.substitute` puts the values between the literals, or tells the first name
that has none (`substitute_reads`); neither a value nor what it makes up with the text around it is
looked at again.
-/

namespace Retrace.Environment

variable {t literal name rest : Text}

/-! ## References -/

/-- A reference to a variable, as it stands in a text. -/
def written (name : Text) : Text := opening ++ name ++ ['}']

/-- What stands in a reference: a text that is not empty and has no closing brace. -/
structure IsName (name : Text) : Prop where
  ne_nil : name ≠ []
  brace_not_mem : '}' ∉ name

/-- A text with a complete reference somewhere in it. -/
def HoldsReference (t : Text) : Prop := ∃ name, IsName name ∧ written name <:+: t

lemma written_append (name rest : Text) :
    written name ++ rest = opening ++ (name ++ '}' :: rest) := by
  simp [written]

lemma takeWhile_name (h : '}' ∉ name) (rest : Text) :
    (name ++ '}' :: rest).takeWhile (· ≠ '}') = name ∧
      (name ++ '}' :: rest).dropWhile (· ≠ '}') = '}' :: rest := by
  have hall : ∀ c ∈ name, decide (c ≠ '}') = true := by
    intro c hc
    rw [decide_eq_true_eq]
    rintro rfl
    exact h hc
  constructor
  · rw [List.takeWhile_append_of_pos hall]
    simp
  · rw [List.dropWhile_append_of_pos hall]
    simp

/-- A text starts with a reference exactly if one is read off it. -/
lemma reference?_eq_some_iff :
    reference? t = some (name, rest) ↔ IsName name ∧ t = written name ++ rest := by
  constructor
  · intro h
    rw [reference?] at h
    split at h
    · cases h
    · next inner hinner =>
      split at h
      · next c front d after hfront hafter =>
        obtain ⟨rfl, rfl⟩ := Prod.mk.inj (Option.some.inj h)
        have hd : d = '}' := by
          have := List.head?_dropWhile_not (fun c => decide (c ≠ '}')) inner
          rw [hafter] at this
          simpa using this
        have hbrace : '}' ∉ c :: front := by
          intro hmem
          rw [← hfront] at hmem
          simpa using List.mem_takeWhile_imp hmem
        refine ⟨⟨List.cons_ne_nil c front, hbrace⟩, ?_⟩
        rw [written_append, Text.eq_append_of_dropLead? hinner, ← hd, ← hfront, ← hafter,
          List.takeWhile_append_dropWhile]
      · cases h
  · rintro ⟨⟨hne, hbrace⟩, rfl⟩
    obtain ⟨c, name, rfl⟩ := List.exists_cons_of_ne_nil hne
    obtain ⟨hfront, hafter⟩ := takeWhile_name hbrace rest
    rw [written_append, reference?, Text.dropLead?_append]
    simp only [hfront, hafter]

lemma reference?_eq_none_iff :
    reference? t = none ↔ ∀ name rest, IsName name → t ≠ written name ++ rest := by
  constructor
  · intro h name rest hname ht
    rw [reference?_eq_some_iff.2 ⟨hname, ht⟩] at h
    cases h
  · intro h
    rw [Option.eq_none_iff_forall_ne_some]
    rintro ⟨name, rest⟩ hread
    obtain ⟨hname, ht⟩ := reference?_eq_some_iff.1 hread
    exact h name rest hname ht

/-- A text that starts with a reference starts with no other one. -/
lemma written_append_inj {other rest' : Text} (hname : IsName name) (hother : IsName other)
    (h : written name ++ rest = written other ++ rest') : name = other ∧ rest = rest' := by
  have hread : reference? (written name ++ rest) = some (name, rest) :=
    reference?_eq_some_iff.2 ⟨hname, rfl⟩
  rw [h, reference?_eq_some_iff.2 ⟨hother, rfl⟩] at hread
  obtain ⟨hnames, hrests⟩ := Prod.mk.inj (Option.some.inj hread)
  exact ⟨hnames.symm, hrests.symm⟩

/-! ## Literal texts -/

/-- A text in which no reference begins, with `rest` behind it. -/
def IsLiteral (literal rest : Text) : Prop :=
  ∀ early name late, IsName name → literal ++ rest = early ++ (written name ++ late) →
    literal.length ≤ early.length

lemma isLiteral_nil (rest : Text) : IsLiteral [] rest := fun _ _ _ _ _ => Nat.zero_le _

lemma isLiteral_cons_iff {c : Char} : IsLiteral (c :: literal) rest ↔
    reference? (c :: (literal ++ rest)) = none ∧ IsLiteral literal rest := by
  rw [reference?_eq_none_iff]
  constructor
  · intro h
    refine ⟨fun name late hname ht => ?_, fun early name late hname ht => ?_⟩
    · exact absurd (h [] name late hname ht) (by simp)
    · have hlonger := h (c :: early) name late hname (congrArg (c :: ·) ht)
      simpa using hlonger
  · rintro ⟨hfirst, hliteral⟩ early name late hname ht
    cases early with
    | nil => exact absurd ht (hfirst name late hname)
    | cons d early =>
      obtain ⟨rfl, hrest⟩ := List.cons.inj ht
      exact Nat.succ_le_succ (hliteral early name late hname hrest)

lemma isLiteral_of_not_holdsReference (h : ¬ HoldsReference t) : IsLiteral t [] := by
  intro early name late hname ht
  refine absurd ⟨name, hname, early, late, ?_⟩ h
  rw [List.append_assoc, ← ht, List.append_nil]

/-- A complete reference would begin in the text that holds it. -/
lemma IsLiteral.not_holdsReference (h : IsLiteral literal rest) : ¬ HoldsReference literal := by
  rintro ⟨name, hname, early, late, rfl⟩
  have hlength := h early name (late ++ rest) hname (by simp only [List.append_assoc])
  simp [written, opening] at hlength

lemma not_holdsReference_nil : ¬ HoldsReference [] := (isLiteral_nil []).not_holdsReference

/-- A text with a reference has a leftmost one. -/
lemma exists_leftmost (h : HoldsReference t) : ∃ literal name rest, IsName name ∧
    t = literal ++ (written name ++ rest) ∧ IsLiteral literal (written name ++ rest) := by
  induction t with
  | nil => exact absurd h not_holdsReference_nil
  | cons c t ih =>
    cases hread : reference? (c :: t) with
    | some read =>
      obtain ⟨name, rest⟩ := read
      obtain ⟨hname, ht⟩ := reference?_eq_some_iff.1 hread
      exact ⟨[], name, rest, hname, ht, isLiteral_nil _⟩
    | none =>
      -- The reference does not begin with `c`, so it lies behind it.
      have hlater : HoldsReference t := by
        obtain ⟨name, hname, hin⟩ := h
        refine ⟨name, hname, (List.infix_cons_iff.1 hin).resolve_left ?_⟩
        rintro ⟨rest, hrest⟩
        exact reference?_eq_none_iff.1 hread name rest hname hrest.symm
      obtain ⟨literal, name, rest, hname, rfl, hliteral⟩ := ih hlater
      exact ⟨c :: literal, name, rest, hname, rfl, isLiteral_cons_iff.2 ⟨hread, hliteral⟩⟩

/-! ## Taking a text apart -/

/-- A text taken apart: the references, each with the literal text before it, and the literal text
behind the last of them. -/
structure Parted where
  parts : List (Text × Text)
  last : Text
deriving DecidableEq, Repr

namespace Parted

/-- The names in the references, in order. -/
def names (d : Parted) : List Text := d.parts.map (·.2)

/-- The literal texts, in order. -/
def literals (d : Parted) : List Text := d.parts.map (·.1) ++ [d.last]

/-- The text that was taken apart. -/
def text (d : Parted) : Text := d.parts.flatMap (fun p => p.1 ++ written p.2) ++ d.last

/-- The text with the value of every variable in place of the reference to it. -/
def filled (env : Environment) (d : Parted) : Text :=
  d.parts.flatMap (fun p => p.1 ++ (env.get? p.2).getD []) ++ d.last

/-- A text taken apart with one more reference in front of it. -/
def cons (literal name : Text) (d : Parted) : Parted :=
  { d with parts := (literal, name) :: d.parts }

lemma names_cons (d : Parted) : (d.cons literal name).names = name :: d.names := rfl

lemma literals_cons (d : Parted) : (d.cons literal name).literals = literal :: d.literals := rfl

lemma text_cons (d : Parted) :
    (d.cons literal name).text = literal ++ (written name ++ d.text) := by
  simp [cons, text]

lemma filled_cons (env : Environment) (d : Parted) :
    (d.cons literal name).filled env = literal ++ ((env.get? name).getD [] ++ d.filled env) := by
  simp [cons, filled]

end Parted

/-- A text is taken apart at its leftmost reference, and behind this again. -/
inductive Reads : Text → Parted → Prop
  | plain {t : Text} (h : ¬ HoldsReference t) : Reads t ⟨[], t⟩
  | next {literal name rest : Text} {d : Parted} (hname : IsName name)
      (leftmost : IsLiteral literal (written name ++ rest)) (h : Reads rest d) :
      Reads (literal ++ (written name ++ rest)) (d.cons literal name)

lemma exists_reads (t : Text) : ∃ d, Reads t d := by
  induction hlength : t.length using Nat.strong_induction_on generalizing t with
  | h n ih =>
    by_cases h : HoldsReference t
    · obtain ⟨literal, name, rest, hname, rfl, hliteral⟩ := exists_leftmost h
      have hshorter : rest.length < n := by
        rw [← hlength]
        simp [written, opening]
        omega
      obtain ⟨d, hd⟩ := ih rest.length hshorter rest rfl
      exact ⟨_, .next hname hliteral hd⟩
    · exact ⟨_, .plain h⟩

/-- A text has one leftmost reference. -/
lemma IsLiteral.unique {literal' name' rest' : Text} (hname : IsName name) (hname' : IsName name')
    (h : IsLiteral literal (written name ++ rest))
    (h' : IsLiteral literal' (written name' ++ rest'))
    (hsame : literal ++ (written name ++ rest) = literal' ++ (written name' ++ rest')) :
    literal = literal' ∧ name = name' ∧ rest = rest' := by
  have hlength : literal.length = literal'.length :=
    Nat.le_antisymm (h literal' name' rest' hname' hsame) (h' literal name rest hname hsame.symm)
  obtain ⟨hliteral, hrest⟩ := List.append_inj hsame hlength
  exact ⟨hliteral, written_append_inj hname hname' hrest⟩

lemma holdsReference_append (hname : IsName name) (literal rest : Text) :
    HoldsReference (literal ++ (written name ++ rest)) :=
  ⟨name, hname, literal, rest, List.append_assoc _ _ _⟩

/-- There is one way to take a text apart. -/
theorem reads_unique {d d' : Parted} (h : Reads t d) (h' : Reads t d') : d = d' := by
  induction h generalizing d' with
  | plain hplain =>
    cases h' with
    | plain _ => rfl
    | next hname _ _ => exact absurd (holdsReference_append hname _ _) hplain
  | @next literal name rest d hname hliteral _ ih =>
    -- The other way is taken apart by cases, which asks for a variable in place of the text.
    generalize hsame : literal ++ (written name ++ rest) = t at h'
    cases h' with
    | plain hplain => exact absurd (hsame ▸ holdsReference_append hname _ _) hplain
    | next hname' hliteral' h' =>
      obtain ⟨rfl, rfl, rfl⟩ := hliteral.unique hname hname' hliteral' hsame
      rw [ih h']

/-- The parts of a text make it up again, with names in the references and none in the literals. -/
lemma Reads.parts {d : Parted} (h : Reads t d) : d.text = t ∧ (∀ n ∈ d.names, IsName n) ∧
    ∀ l ∈ d.literals, ¬ HoldsReference l := by
  induction h with
  | plain hplain => exact ⟨rfl, by simp [Parted.names], by simpa [Parted.literals] using hplain⟩
  | next hname hliteral _ ih =>
    obtain ⟨htext, hnames, hliterals⟩ := ih
    rw [Parted.text_cons, htext, Parted.names_cons, Parted.literals_cons]
    exact ⟨rfl, List.forall_mem_cons.2 ⟨hname, hnames⟩,
      List.forall_mem_cons.2 ⟨hliteral.not_holdsReference, hliterals⟩⟩

/-! ## Pieces -/

/-- A reference that has been met is passed over to its end. -/
lemma piecesAfter_length (skipped rest : Text) :
    piecesAfter skipped.length (skipped ++ rest) = pieces rest := by
  induction skipped with
  | nil => rfl
  | cons c skipped ih => simpa [piecesAfter] using ih

lemma pieces_written (hname : IsName name) (rest : Text) :
    pieces (written name ++ rest) = .reference name :: pieces rest := by
  have hread : reference? (written name ++ rest) = some (name, rest) :=
    reference?_eq_some_iff.2 ⟨hname, rfl⟩
  have hcons : written name ++ rest = '$' :: (('{' :: name ++ ['}']) ++ rest) := by
    simp [written, opening]
  rw [hcons] at hread ⊢
  rw [pieces, piecesAfter, hread]
  simp only [List.length_append, Nat.add_sub_cancel]
  rw [← List.length_append, piecesAfter_length]

lemma pieces_literal (h : IsLiteral literal rest) :
    pieces (literal ++ rest) = literal.map .char ++ pieces rest := by
  induction literal with
  | nil => rfl
  | cons c literal ih =>
    obtain ⟨hread, hliteral⟩ := isLiteral_cons_iff.1 h
    have hrest := ih hliteral
    rw [pieces] at hrest
    rw [List.cons_append, pieces, piecesAfter, hread]
    simp only [hrest, List.map_cons, List.cons_append]

lemma replace_literal (env : Environment) (literal : Text) (ps : List Piece) :
    env.replace (literal.map .char ++ ps) = (env.replace ps).map (literal ++ ·) := by
  induction literal with
  | nil => cases h : env.replace ps <;> simp [h, Except.map]
  | cons c literal ih =>
    rw [List.map_cons, List.cons_append, replace, ih]
    cases env.replace ps <;> rfl

/-! ## Substitution -/

lemma substitute_plain (env : Environment) (h : ¬ HoldsReference t) : env.substitute t = .ok t := by
  have hpieces := pieces_literal (isLiteral_of_not_holdsReference h)
  rw [List.append_nil] at hpieces
  rw [substitute, hpieces, replace_literal]
  simp [pieces, piecesAfter, replace, Except.map]

/-- The leftmost reference is replaced, and what follows it is looked at on its own. -/
lemma substitute_next (env : Environment) (hname : IsName name)
    (hliteral : IsLiteral literal (written name ++ rest)) :
    env.substitute (literal ++ (written name ++ rest)) =
      match env.get? name with
      | none => .error name
      | some value => (env.substitute rest).map fun t => literal ++ (value ++ t) := by
  rw [substitute, pieces_literal hliteral, pieces_written hname, replace_literal, replace,
    Piece.text]
  cases env.get? name with
  | none => rfl
  | some value =>
    rw [substitute]
    cases env.replace (pieces rest) <;> rfl

lemma Reads.substitute_of_set (env : Environment) {d : Parted} (h : Reads t d)
    (hset : ∀ n ∈ d.names, env.get? n ≠ none) : env.substitute t = .ok (d.filled env) := by
  induction h with
  | plain hplain => exact substitute_plain env hplain
  | next hname hliteral _ ih =>
    rw [Parted.names_cons, List.forall_mem_cons] at hset
    obtain ⟨value, hvalue⟩ := Option.ne_none_iff_exists'.1 hset.1
    rw [substitute_next env hname hliteral, ih hset.2, Parted.filled_cons, hvalue]
    rfl

lemma Reads.substitute_of_unset (env : Environment) {d : Parted} (h : Reads t d)
    {before after : List Text} {n : Text} (hnames : d.names = before ++ n :: after)
    (hset : ∀ m ∈ before, env.get? m ≠ none) (hunset : env.get? n = none) :
    env.substitute t = .error n := by
  induction h generalizing before with
  | plain _ => simp [Parted.names] at hnames
  | next hname hliteral _ ih =>
    rw [Parted.names_cons] at hnames
    rw [substitute_next env hname hliteral]
    cases before with
    | nil =>
      obtain ⟨rfl, -⟩ := List.cons.inj hnames
      rw [hunset]
    | cons m before =>
      obtain ⟨rfl, hrest⟩ := List.cons.inj hnames
      rw [List.forall_mem_cons] at hset
      obtain ⟨value, hvalue⟩ := Option.ne_none_iff_exists'.1 hset.1
      rw [hvalue, ih hrest hset.2]
      rfl

/-- **Substitution.** A text is taken apart at its references in one way.  If all the variables in
them are set, the result is the literals with the values between them, as they are.  Otherwise the
first variable that is not set is told, also by the configuration that has the text.  A text without
a reference stays as it is. -/
theorem substitute_reads (t : Text) :
    (∃! d, Reads t d) ∧
    (∀ d, Reads t d →
      (d.text = t ∧ (∀ n ∈ d.names, IsName n) ∧ ∀ l ∈ d.literals, ¬ HoldsReference l) ∧
      ∀ env : Environment,
        ((∀ n ∈ d.names, env.get? n ≠ none) → env.substitute t = .ok (d.filled env)) ∧
        ∀ before n after, d.names = before ++ n :: after →
          (∀ m ∈ before, env.get? m ≠ none) → env.get? n = none →
          env.substitute t = .error n ∧
          (∀ raw, Text.unifyLineEnds raw = t →
            Config.readDocument env raw = .error (.unset n)) ∧
          (Config.Fault.unset n).message? =
            some ("Environment variable ".toList ++ n ++ " not found".toList)) ∧
    (¬ HoldsReference t → ∀ env : Environment, env.substitute t = .ok t) := by
  refine ⟨?_, fun d h => ⟨h.parts, fun env => ⟨h.substitute_of_set env, ?_⟩⟩,
    fun h env => substitute_plain env h⟩
  · obtain ⟨d, hd⟩ := exists_reads t
    exact ⟨d, hd, fun d' hd' => reads_unique hd' hd⟩
  · intro before n after hnames hset hunset
    have hfault := h.substitute_of_unset env hnames hset hunset
    refine ⟨hfault, fun raw hraw => ?_, rfl⟩
    rw [Config.readDocument, hraw, hfault]

/-- A reference that begins inside another one, and one more. -/
def nestedText : Text := "$\x7b$\x7bA\x7d-$\x7bB\x7d".toList

/-- Its parts: the first name runs from the first opening to the first brace. -/
def nestedParts : Parted := ⟨[([], "$\x7bA".toList), ("-".toList, "B".toList)], []⟩

lemma reads_nestedText : Reads nestedText nestedParts := by
  have hfirst : IsName "$\x7bA".toList := ⟨by decide, by decide⟩
  have hsecond : IsName "B".toList := ⟨by decide, by decide⟩
  have hdash : IsLiteral "-".toList (written "B".toList ++ []) :=
    isLiteral_cons_iff.2 ⟨by decide, isLiteral_nil _⟩
  exact .next hfirst (isLiteral_nil _) (.next hsecond hdash (.plain not_holdsReference_nil))

/-- A value that looks like a reference is put in as it is, and the first name that is not set is
told. -/
theorem substitute_reads_nested :
    substitute [("$\x7bA".toList, "$\x7bB\x7d".toList), ("B".toList, "x".toList)] nestedText =
        .ok "$\x7bB\x7d-x".toList ∧
      substitute [("$\x7bA".toList, [])] nestedText = .error "B".toList := by
  obtain ⟨-, hreads, -⟩ := substitute_reads nestedText
  obtain ⟨-, henv⟩ := hreads nestedParts reads_nestedText
  constructor
  · exact (henv _).1 (by decide)
  · exact ((henv _).2 ["$\x7bA".toList] "B".toList [] rfl (by decide) (by decide)).1

end Retrace.Environment
