import Retrace.Proofs.Json.Fields
import Retrace.Proofs.Json.Quoting
import Retrace.Proofs.Numeral

/-!
# JSON is read back

`Json.print` writes a value on one line and `Json.parse` reads it.  The only obstacle is the limit
on the digits of a whole number: `parse_print` says that a plain value is read back unless one of
its numbers is too long, and that the first such number is the fault otherwise.  A value is plain
if it has no reals and no key twice in an object.

The proof follows the readers.  Each reads what was printed up to a rest that cannot belong to it
(`Ends`), with twice the length of the text as a bound on the steps.
-/

namespace Retrace.Json

/-! ## Plain values -/

mutual

/-- A value without reals and without repeated keys. -/
def Plain : Json → Prop
  | .real _ => False
  | .list items => PlainItems items
  | .object fields => (fields.map (·.1)).Nodup ∧ PlainFields fields
  | _ => True

/-- Items that are plain. -/
def PlainItems : List Json → Prop
  | [] => True
  | v :: items => Plain v ∧ PlainItems items

/-- Fields whose values are plain. -/
def PlainFields : List (Text × Json) → Prop
  | [] => True
  | (_, v) :: fields => Plain v ∧ PlainFields fields

end

@[simp] lemma longNumber?_list (items : List Json) :
    longNumber? (.list items) = longItem? items := by
  rw [longNumber?]

@[simp] lemma longNumber?_object (fields : List (Text × Json)) :
    longNumber? (.object fields) = longField? fields := by
  rw [longNumber?]

@[simp] lemma longNumber?_text (t : Text) : longNumber? (.text t) = none := by
  simp [longNumber?]

@[simp] lemma longItem?_cons (v : Json) (items : List Json) :
    longItem? (v :: items) = (longNumber? v).or (longItem? items) := by
  rw [longItem?]

@[simp] lemma longField?_nil : longField? [] = none := by rw [longField?]

@[simp] lemma longField?_cons (key : Text) (v : Json) (fields : List (Text × Json)) :
    longField? ((key, v) :: fields) = (longNumber? v).or (longField? fields) := by
  rw [longField?]

lemma isSome_longField?_iff {fields : List (Text × Json)} :
    (longField? fields).isSome = true ↔
      ∃ key v, (key, v) ∈ fields ∧ (longNumber? v).isSome = true := by
  induction fields with
  | nil => simp
  | cons field fields ih =>
    obtain ⟨key, v⟩ := field
    rw [longField?_cons, Option.isSome_or, Bool.or_eq_true, ih]
    simp only [List.mem_cons, Prod.mk.injEq, or_and_right, exists_or]
    simp only [and_assoc, exists_and_left, exists_eq_left]

/-- What is read where a value was printed: the value, unless one of its numbers is too long. -/
def outcome {α : Type} (long : Option Nat) (v : α) : Except Stop α :=
  match long with
  | none => .ok v
  | some n => .error (.numeral (.tooLongToRead n))

/-- A rest that no number goes on with. -/
def Ends (rest : Text) : Prop :=
  ∀ c ∈ rest.head?, c.isDigit = false ∧ c ≠ '.' ∧ c ≠ 'e' ∧ c ≠ 'E'

lemma ends_nil : Ends [] := by simp [Ends]

lemma ends_comma (rest : Text) : Ends (',' :: rest) := by simp [Ends]

lemma ends_bracket (rest : Text) : Ends (']' :: rest) := by simp [Ends]

lemma ends_brace (rest : Text) : Ends ('}' :: rest) := by simp [Ends]

/-! ## Numbers -/

lemma Ends.takeWhile {rest : Text} (h : Ends rest) : rest.takeWhile Char.isDigit = [] := by
  cases rest with
  | nil => rfl
  | cons c rest => simp [(h c rfl).1]

lemma Ends.dropWhile {rest : Text} (h : Ends rest) : rest.dropWhile Char.isDigit = rest := by
  cases rest with
  | nil => rfl
  | cons c rest => simp [(h c rfl).1]

lemma splitWhole?_digits (n : Nat) {rest : Text} (h : Ends rest) :
    splitWhole? (Numeral.digits n ++ rest) = some (Numeral.digits n, rest) := by
  by_cases hn : n = 0
  · rw [hn]
    rfl
  obtain ⟨c, ds, hdigits⟩ := List.exists_cons_of_ne_nil (Numeral.digits_ne_nil n)
  have hzero : c ≠ '0' := by
    have := Numeral.head?_digits_ne_zero hn
    rintro rfl
    exact this (by rw [hdigits]; rfl)
  have hall : ∀ d ∈ c :: ds, d.isDigit = true := by
    rw [← hdigits]
    exact fun d => Numeral.isDigit_of_mem_digits
  have htake : (c :: ds ++ rest).takeWhile Char.isDigit = c :: ds := by
    rw [List.takeWhile_append_of_pos hall, h.takeWhile, List.append_nil]
  have hdrop : (c :: ds ++ rest).dropWhile Char.isDigit = rest := by
    rw [List.dropWhile_append_of_pos hall, h.dropWhile]
  rw [hdigits]
  unfold splitWhole?
  split
  · next heq => exact absurd (List.cons.inj heq).1 hzero
  · rw [htake, hdrop]

lemma splitFraction_of_ends {rest : Text} (h : Ends rest) : splitFraction rest = ([], rest) := by
  cases rest with
  | nil => rfl
  | cons c rest =>
    have hc := (h c rfl).2.1
    unfold splitFraction
    split
    · next heq => exact absurd (List.cons.inj heq).1 hc
    · rfl

lemma splitExponent_of_ends {rest : Text} (h : Ends rest) :
    splitExponent rest = (none, rest) := by
  cases rest with
  | nil => rfl
  | cons c rest =>
    have hc := (h c rfl).2.2
    simp [splitExponent, hc.1, hc.2]

lemma digits_eq_cons (n : Nat) : ∃ c ds, Numeral.digits n = c :: ds ∧ c.isDigit = true := by
  obtain ⟨c, ds, hdigits⟩ := List.exists_cons_of_ne_nil (Numeral.digits_ne_nil n)
  exact ⟨c, ds, hdigits, Numeral.isDigit_of_mem_digits (hdigits ▸ List.mem_cons_self)⟩

lemma read_digits_cases (n : Int) :
    (Numeral.read (Numeral.digits n.natAbs) = .ok n.natAbs ∧ longNumber? (.int n) = none) ∨
    ∃ count, Numeral.read (Numeral.digits n.natAbs) = .error (.tooLongToRead count) ∧
      longNumber? (.int n) = some count := by
  simp only [Numeral.read, longNumber?, Numeral.value_digits]
  by_cases hlong : Numeral.digitLimit < (Numeral.digits n.natAbs).length
  · right
    exact ⟨_, if_pos hlong, if_pos hlong⟩
  · left
    exact ⟨if_neg hlong, if_neg hlong⟩

lemma readNumber_signedDigits (n : Int) {rest : Text} (h : Ends rest) :
    readNumber (Numeral.signedDigits n ++ rest) =
      outcome (longNumber? (.int n)) (.int n, rest) := by
  have hwhole := splitWhole?_digits n.natAbs h
  have hfraction := splitFraction_of_ends h
  have hexponent := splitExponent_of_ends h
  rw [Numeral.signedDigits]
  by_cases hneg : n < 0
  · have hvalue : -(n.natAbs : Int) = n := by omega
    rw [if_pos hneg, List.cons_append]
    rcases read_digits_cases n with ⟨hread, hlong⟩ | ⟨count, hread, hlong⟩
    · unfold readNumber
      simp only [hwhole, hfraction, hexponent, hread, hlong, outcome, if_true, hvalue]
      rfl
    · unfold readNumber
      simp only [hwhole, hfraction, hexponent, hread, hlong, outcome]
      rfl
  · have hvalue : (n.natAbs : Int) = n := by omega
    obtain ⟨c, ds, hdigits, hc⟩ := digits_eq_cons n.natAbs
    have hminus : c ≠ '-' := by
      rintro rfl
      simp at hc
    rw [if_neg hneg]
    rcases read_digits_cases n with ⟨hread, hlong⟩ | ⟨count, hread, hlong⟩
    · rw [hdigits] at hwhole hread ⊢
      rw [List.cons_append] at hwhole ⊢
      unfold readNumber
      simp [hminus, hwhole, hfraction, hexponent, hread, hlong, outcome, hvalue]
    · rw [hdigits] at hwhole hread ⊢
      rw [List.cons_append] at hwhole ⊢
      unfold readNumber
      simp [hminus, hwhole, hfraction, hexponent, hread, hlong, outcome]

/-! ## The printed form -/

/-- The printed items of a list, without its brackets. -/
def itemsText (items : List Json) : Text := Text.join [','] (printItems items)

/-- The printed fields of an object, without its braces. -/
def fieldsText (fields : List (Text × Json)) : Text := Text.join [','] (printFields fields)

lemma print_int (n : Int) : print (.int n) = Numeral.signedDigits n := rfl

lemma print_text (t : Text) : print (.text t) = printedText t := rfl

lemma print_list (items : List Json) : print (.list items) = '[' :: (itemsText items ++ [']']) :=
  rfl

lemma print_object (fields : List (Text × Json)) :
    print (.object fields) = '\x7b' :: (fieldsText fields ++ ['\x7d']) := rfl

/-! ## The start of a value -/

/-- A character that a printed value may start with. -/
def Opens (c : Char) : Prop := isSpace c = false ∧ c ≠ ']' ∧ c ≠ '\uFEFF'

lemma Opens.skipSpace {c : Char} (h : Opens c) (t : Text) : skipSpace (c :: t) = c :: t := by
  simp [Json.skipSpace, h.1]

lemma opens_of_isDigit {c : Char} (h : c.isDigit = true) : Opens c := by
  constructor
  · rw [isSpace]
    simp only [Bool.or_eq_false_iff, decide_eq_false_iff_not]
    refine ⟨⟨⟨?_, ?_⟩, ?_⟩, ?_⟩ <;> (rintro rfl; simp at h)
  · constructor <;> (rintro rfl; simp at h)

lemma print_eq_cons {v : Json} (h : Plain v) : ∃ c t, print v = c :: t ∧ Opens c := by
  match v with
  | .null => exact ⟨_, _, rfl, rfl, by decide⟩
  | .bool true => exact ⟨_, _, rfl, rfl, by decide⟩
  | .bool false => exact ⟨_, _, rfl, rfl, by decide⟩
  | .int n =>
    obtain ⟨c, ds, hdigits, hc⟩ := digits_eq_cons n.natAbs
    rw [print_int, Numeral.signedDigits]
    split
    · exact ⟨_, _, rfl, rfl, by decide⟩
    · exact ⟨c, ds, hdigits, opens_of_isDigit hc⟩
  | .real r => exact absurd h (by simp [Plain])
  | .text t => exact ⟨_, _, rfl, rfl, by decide⟩
  | .list items => exact ⟨_, _, rfl, rfl, by decide⟩
  | .object fields => exact ⟨_, _, rfl, rfl, by decide⟩

/-- No word starts with a digit, nor with a minus sign before a digit. -/
lemma dropLead?_signedDigits (n : Int) (rest : Text) {word : Text} {v : Json}
    (hword : (word, v) ∈ words) :
    Text.dropLead? word (Numeral.signedDigits n ++ rest) = none := by
  obtain ⟨c, ds, hdigits, hc⟩ := digits_eq_cons n.natAbs
  have hne (d : Char) (hd : d.isDigit = false) : d ≠ c := by
    rintro rfl
    simp [hd] at hc
  simp only [words, List.mem_cons, List.not_mem_nil, or_false, Prod.mk.injEq] at hword
  rw [Numeral.signedDigits, hdigits]
  split
  · rcases hword with ⟨rfl, -⟩ | ⟨rfl, -⟩ | ⟨rfl, -⟩ | ⟨rfl, -⟩ | ⟨rfl, -⟩ | ⟨rfl, -⟩
    · rfl
    · rfl
    · rfl
    · rfl
    · rfl
    · simp [Text.dropLead?, hne 'I' rfl]
  · rcases hword with ⟨rfl, -⟩ | ⟨rfl, -⟩ | ⟨rfl, -⟩ | ⟨rfl, -⟩ | ⟨rfl, -⟩ | ⟨rfl, -⟩
    · simp [Text.dropLead?, hne 'n' rfl]
    · simp [Text.dropLead?, hne 't' rfl]
    · simp [Text.dropLead?, hne 'f' rfl]
    · simp [Text.dropLead?, hne 'N' rfl]
    · simp [Text.dropLead?, hne 'I' rfl]
    · simp [Text.dropLead?, hne '-' rfl]

lemma readWord?_signedDigits (n : Int) (rest : Text) :
    readWord? (Numeral.signedDigits n ++ rest) = none := by
  rw [readWord?, List.findSome?_eq_none_iff]
  rintro ⟨word, v⟩ hword
  simp only [dropLead?_signedDigits n rest hword, Option.map_none]

/-- What starts with no quote, brace or bracket, and is no word, is read as a number. -/
lemma readValue_eq_readNumber {c : Char} (hquote : c ≠ '"') (hbrace : c ≠ '\x7b')
    (hbracket : c ≠ '[') {t : Text} (hword : readWord? (c :: t) = none) (steps : Nat) :
    readValue (steps + 1) (c :: t) = readNumber (c :: t) := by
  unfold readValue
  split
  · next heq => exact absurd (List.cons.inj heq).1 hquote
  · next heq => exact absurd (List.cons.inj heq).1 hbrace
  · next heq => exact absurd (List.cons.inj heq).1 hbracket
  · rw [hword]

lemma readValue_int (n : Int) (steps : Nat) {rest : Text} (h : Ends rest) :
    readValue (steps + 1) (Numeral.signedDigits n ++ rest) =
      outcome (longNumber? (.int n)) (.int n, rest) := by
  have hword := readWord?_signedDigits n rest
  have hnumber := readNumber_signedDigits n h
  obtain ⟨c, t, hcons, hc⟩ : ∃ c t, Numeral.signedDigits n ++ rest = c :: t ∧
      c ≠ '"' ∧ c ≠ '\x7b' ∧ c ≠ '[' := by
    obtain ⟨c, ds, hdigits, hc⟩ := digits_eq_cons n.natAbs
    rw [Numeral.signedDigits]
    split
    · exact ⟨_, _, rfl, by decide⟩
    · rw [hdigits]
      refine ⟨c, ds ++ rest, rfl, ?_, ?_, ?_⟩ <;> (rintro rfl; simp at hc)
  rw [hcons] at hword hnumber ⊢
  rw [readValue_eq_readNumber hc.1 hc.2.1 hc.2.2 hword, hnumber]

/-! ## Lists and objects, one step at a time -/

lemma readValue_bracket {c : Char} (h : Opens c) (steps : Nat) (t : Text) :
    readValue (steps + 1) ('[' :: c :: t) = readItems steps [] (c :: t) := by
  rw [readValue, h.skipSpace]
  split
  · next heq => exact absurd (List.cons.inj heq).1 h.2.1
  · rfl

lemma readItems_last {steps : Nat} {t rest : Text} {v : Json} {long : Option Nat}
    (h : readValue steps t = outcome long (v, ']' :: rest)) (done : List Json) :
    readItems (steps + 1) done t = outcome long (.list (done.reverse ++ [v]), rest) := by
  rw [readItems, h]
  cases long with
  | none =>
    have hdone : (v :: done).reverse = done.reverse ++ [v] := List.reverse_cons
    rw [← hdone]
    rfl
  | some n => rfl

lemma readItems_next {steps : Nat} {t rest : Text} {v : Json} {long : Option Nat} {c : Char}
    (hc : Opens c) (h : readValue steps t = outcome long (v, ',' :: c :: rest))
    (done : List Json) :
    readItems (steps + 1) done t =
      (outcome long ()).bind fun _ => readItems steps (v :: done) (c :: rest) := by
  rw [readItems, h]
  cases long with
  | none =>
    change readItems steps (v :: done) (skipSpace (c :: rest)) = _
    rw [hc.skipSpace]
    rfl
  | some n => rfl

lemma readFields_last {steps : Nat} {key t rest : Text} {v : Json} {long : Option Nat} {c : Char}
    (hc : Opens c) (hkey : key.length < steps)
    (h : readValue steps (c :: t) = outcome long (v, '\x7d' :: rest))
    {done : List (Text × Json)} (hdone : key ∉ done.map (·.1)) :
    readFields (steps + 1) done (printedText key ++ ':' :: c :: t) =
      outcome long (.object (done ++ [(key, v)]), rest) := by
  have hread := readText_printed key (':' :: c :: t) hkey
  have hskip : skipSpace (':' :: c :: t) = ':' :: c :: t := rfl
  simp only [printedText, List.cons_append, List.append_assoc, List.nil_append, readFields, hread,
    hskip, hc.skipSpace, h]
  cases long with
  | none =>
    rw [← setField_of_not_mem hdone]
    rfl
  | some n => rfl

lemma readFields_next {steps : Nat} {key t rest : Text} {v : Json} {long : Option Nat} {c : Char}
    (hc : Opens c) (hkey : key.length < steps)
    (h : readValue steps (c :: t) = outcome long (v, ',' :: '"' :: rest))
    {done : List (Text × Json)} (hdone : key ∉ done.map (·.1)) :
    readFields (steps + 1) done (printedText key ++ ':' :: c :: t) =
      (outcome long ()).bind fun _ => readFields steps (done ++ [(key, v)]) ('"' :: rest) := by
  have hread := readText_printed key (':' :: c :: t) hkey
  have hskip : skipSpace (':' :: c :: t) = ':' :: c :: t := rfl
  simp only [printedText, List.cons_append, List.append_assoc, List.nil_append, readFields, hread,
    hskip, hc.skipSpace, h]
  cases long with
  | none =>
    rw [← setField_of_not_mem hdone]
    rfl
  | some n => rfl

lemma outcome_or {α : Type} (first second : Option Nat) (v : α) :
    ((outcome first ()).bind fun _ => outcome second v) = outcome (first.or second) v := by
  cases first <;> rfl

/-! ## Items and fields -/

lemma itemsText_singleton (v : Json) : itemsText [v] = print v := by
  simp [itemsText, printItems, Text.join]

lemma itemsText_cons (v w : Json) (items : List Json) :
    itemsText (v :: w :: items) = print v ++ ',' :: itemsText (w :: items) := by
  simp [itemsText, printItems, Text.join, List.intercalate_cons_cons]

lemma fieldsText_singleton (key : Text) (v : Json) :
    fieldsText [(key, v)] = printedText key ++ ':' :: print v := by
  simp [fieldsText, printFields, Text.join]

lemma fieldsText_cons (key : Text) (v : Json) (next : Text × Json)
    (fields : List (Text × Json)) :
    fieldsText ((key, v) :: next :: fields) =
      printedText key ++ ':' :: print v ++ ',' :: fieldsText (next :: fields) := by
  simp [fieldsText, printFields, Text.join, List.intercalate_cons_cons]

lemma itemsText_eq_cons {v : Json} (hv : Plain v) (items : List Json) :
    ∃ c t, itemsText (v :: items) = c :: t ∧ Opens c := by
  obtain ⟨c, t, hcons, hc⟩ := print_eq_cons hv
  cases items with
  | nil => exact ⟨c, t, by rw [itemsText_singleton, hcons], hc⟩
  | cons w items =>
    exact ⟨c, t ++ ',' :: itemsText (w :: items), by rw [itemsText_cons, hcons]; rfl, hc⟩

lemma fieldsText_eq_cons (field : Text × Json) (fields : List (Text × Json)) :
    ∃ t, fieldsText (field :: fields) = '"' :: t := by
  obtain ⟨key, v⟩ := field
  cases fields with
  | nil => exact ⟨_, by rw [fieldsText_singleton]; rfl⟩
  | cons next fields => exact ⟨_, by rw [fieldsText_cons]; rfl⟩

lemma length_key_lt (key : Text) : key.length < (printedText key).length := by
  have := length_le_length_printed key
  simp only [printedText, List.length_cons, List.length_append]
  omega

/-! ## Values -/

mutual

/-- A plain value is read where it was printed. -/
theorem readValue_print (v : Json) (hv : Plain v) (steps : Nat) (rest : Text)
    (hsteps : 2 * (print v ++ rest).length ≤ steps) (hrest : Ends rest) :
    readValue steps (print v ++ rest) = outcome (longNumber? v) (v, rest) := by
  obtain ⟨c, t, hcons, -⟩ := print_eq_cons hv
  obtain ⟨steps, rfl⟩ : ∃ n, steps = n + 1 := by
    rw [hcons, List.cons_append, List.length_cons] at hsteps
    exact ⟨steps - 1, by omega⟩
  match v with
  | .null => rfl
  | .bool true => rfl
  | .bool false => rfl
  | .int n => exact readValue_int n steps hrest
  | .real r => exact absurd hv (by simp [Plain])
  | .text t =>
    have hlength := length_key_lt t
    simp only [print_text, List.length_append] at hsteps
    have hread := readText_printed t rest (by omega : t.length < steps)
    simp only [print_text, printedText, List.cons_append, List.append_assoc, List.nil_append,
      readValue, hread, longNumber?, outcome]
  | .list [] => rfl
  | .list (v :: items) =>
    obtain ⟨c, t, hitems, hc⟩ := itemsText_eq_cons hv.1 items
    have hread := readItems_print (v :: items) (by simp) hv steps [] rest (by
      simp only [print_list, List.cons_append, List.length_cons, List.length_append] at hsteps ⊢
      omega)
    rw [hitems] at hread
    rw [print_list, hitems]
    simp only [List.cons_append, List.append_assoc, List.nil_append] at hread ⊢
    rw [readValue_bracket hc, hread, longNumber?]
    rfl
  | .object [] => rfl
  | .object ((key, v) :: fields) =>
    obtain ⟨t, hfields⟩ := fieldsText_eq_cons (key, v) fields
    have hread := readFields_print ((key, v) :: fields) (by simp) hv.2 steps [] rest
      (by simpa using hv.1) (by
        simp only [print_object, List.cons_append, List.length_cons, List.length_append]
          at hsteps ⊢
        omega)
    rw [hfields] at hread
    rw [print_object, hfields]
    simp only [List.cons_append, List.append_assoc, List.nil_append] at hread ⊢
    rw [longNumber?, ← hread]
    rfl

/-- The items of a list are read where they were printed, up to the closing bracket. -/
theorem readItems_print (items : List Json) (hne : items ≠ []) (hitems : PlainItems items)
    (steps : Nat) (done : List Json) (rest : Text)
    (hsteps : 2 * (itemsText items ++ ']' :: rest).length < steps) :
    readItems steps done (itemsText items ++ ']' :: rest) =
      outcome (longItem? items) (.list (done.reverse ++ items), rest) := by
  obtain ⟨steps, rfl⟩ : ∃ n, steps = n + 1 := ⟨steps - 1, by omega⟩
  match items with
  | [] => exact absurd rfl hne
  | [v] =>
    rw [itemsText_singleton] at hsteps ⊢
    have hread := readValue_print v hitems.1 steps (']' :: rest) (by omega) (ends_bracket rest)
    rw [readItems_last hread]
    simp [longItem?]
  | v :: w :: items =>
    obtain ⟨c, t, hcons, hc⟩ := itemsText_eq_cons hitems.2.1 items
    rw [itemsText_cons, List.append_assoc, List.cons_append] at hsteps ⊢
    have hread := readValue_print v hitems.1 steps (',' :: (itemsText (w :: items) ++ ']' :: rest))
      (by omega) (ends_comma _)
    have hrest := readItems_print (w :: items) (by simp) hitems.2 steps (v :: done) rest (by
      simp only [List.length_append, List.length_cons] at hsteps ⊢
      omega)
    rw [hcons] at hread hrest ⊢
    simp only [List.cons_append] at hread hrest ⊢
    rw [readItems_next hc hread, hrest, outcome_or]
    simp [longItem?]

/-- The fields of an object are read where they were printed, up to the closing brace. -/
theorem readFields_print (fields : List (Text × Json)) (hne : fields ≠ [])
    (hfields : PlainFields fields) (steps : Nat) (done : List (Text × Json)) (rest : Text)
    (hkeys : ((done ++ fields).map (·.1)).Nodup)
    (hsteps : 2 * (fieldsText fields ++ '\x7d' :: rest).length < steps) :
    readFields steps done (fieldsText fields ++ '\x7d' :: rest) =
      outcome (longField? fields) (.object (done ++ fields), rest) := by
  obtain ⟨steps, rfl⟩ : ∃ n, steps = n + 1 := ⟨steps - 1, by omega⟩
  match fields with
  | [] => exact absurd rfl hne
  | (key, v) :: fields =>
    obtain ⟨c, t, hcons, hc⟩ := print_eq_cons hfields.1
    have hdone : key ∉ done.map (·.1) := by
      simp only [List.map_append, List.map_cons, List.nodup_append] at hkeys
      exact fun hmem => hkeys.2.2 key hmem key List.mem_cons_self rfl
    have hlength := length_key_lt key
    match fields with
    | [] =>
      rw [fieldsText_singleton, List.append_assoc, List.cons_append] at hsteps ⊢
      simp only [List.length_append, List.length_cons] at hsteps
      have hread := readValue_print v hfields.1 steps ('\x7d' :: rest)
        (by simp only [List.length_append, List.length_cons]; omega) (ends_brace rest)
      rw [hcons] at hread ⊢
      simp only [List.cons_append] at hread ⊢
      rw [readFields_last hc (by omega) hread hdone]
      simp [longField?]
    | next :: fields =>
      obtain ⟨u, hnext⟩ := fieldsText_eq_cons next fields
      rw [fieldsText_cons, List.append_assoc, List.append_assoc, List.cons_append,
        List.cons_append] at hsteps ⊢
      simp only [List.length_append, List.length_cons] at hsteps
      have hread := readValue_print v hfields.1 steps
        (',' :: (fieldsText (next :: fields) ++ '\x7d' :: rest))
        (by simp only [List.length_append, List.length_cons]; omega) (ends_comma _)
      have hrest := readFields_print (next :: fields) (by simp) hfields.2 steps
        (done ++ [(key, v)]) rest (by simpa using hkeys)
        (by simp only [List.length_append, List.length_cons]; omega)
      rw [hcons, hnext] at hread ⊢
      rw [hnext] at hrest
      simp only [List.cons_append] at hread hrest ⊢
      rw [readFields_next hc (by omega) hread hdone, hrest, outcome_or]
      simp [longField?]

end

/-- **Round trip.** A plain value is read back, unless one of its numbers is too long: then the
first such number is the fault. -/
theorem parse_print {v : Json} (h : Plain v) :
    parse (print v) =
      match longNumber? v with
      | none => .ok v
      | some n => .error (.numeral (.tooLongToRead n)) := by
  obtain ⟨c, t, hcons, hc⟩ := print_eq_cons h
  have hmark : (print v).head? ≠ some '\uFEFF' := by
    rw [hcons]
    exact fun heq => hc.2.2 (Option.some.inj heq)
  have hread := readValue_print v h (2 * (print v).length + 2) [] (by simp) ends_nil
  have hskip : skipSpace (print v) = print v := by rw [hcons, hc.skipSpace]
  rw [List.append_nil] at hread
  rw [parse, if_neg hmark, readAll, hskip, hread]
  cases longNumber? v <;> rfl

end Retrace.Json
