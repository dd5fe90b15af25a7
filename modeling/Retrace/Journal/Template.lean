import Retrace.Json.Shown
import Retrace.Number.Rounded

/-!
# Templates

The text of an event may be a template, in which directives that start with a percent sign stand
for arguments.  A directive has flags, a least width, a precision and a letter that says how the
argument is written: as a text, as a whole number or as a real one.  Two percent signs next to each
other stand for one.
-/

namespace Retrace.Journal

/-- Why a template cannot be filled. -/
inductive TemplateFault
  /-- The arguments do not fit the directives. -/
  | arguments
  /-- An argument that is to be looked up is missing. -/
  | missing
  /-- A number is too great, or no character has it. -/
  | tooGreat
  /-- A width or a precision in the template is too great. -/
  | widthTooGreat
  | precisionTooGreat
  /-- The template ends inside a directive. -/
  | incomplete
  /-- The template ends inside the name of an argument. -/
  | incompleteName
  /-- No directive has a letter. -/
  | letter (c : Char) (index : Nat)
  /-- The value that is no number has no whole part. -/
  | notNumber
  | numeral (f : Numeral.Fault)
deriving DecidableEq, Repr

/-- The wording of the faults that have one. -/
def TemplateFault.message? : TemplateFault → Option Text
  | .incomplete => some "incomplete format".toList
  | .incompleteName => some "incomplete format key".toList
  | .widthTooGreat => some "width too big".toList
  | .precisionTooGreat => some "precision too big".toList
  | .letter c index =>
    let shown := if 32 ≤ c.toNat ∧ c.toNat < 127 then c else '?'
    some ("unsupported format character '".toList ++ shown :: "' (0x".toList
      ++ Nat.toDigits 16 c.toNat ++ ") at index ".toList ++ Numeral.digits index)
  | .notNumber => some "cannot convert float NaN to integer".toList
  | .numeral f => some f.message
  | .arguments | .missing | .tooGreat => none

/-! ## Directives -/

/-- The flags of a directive. -/
structure Flags where
  left : Bool := false
  plus : Bool := false
  space : Bool := false
  alternate : Bool := false
  zero : Bool := false
deriving Repr

/-- A directive without its letter. -/
structure Directive where
  flags : Flags := {}
  width : Nat := 0
  precision : Option Nat := none
deriving Repr

/-- Reads flags. -/
def readFlags (f : Flags) : Text → Flags × Text
  | '-' :: t => readFlags { f with left := true } t
  | '+' :: t => readFlags { f with plus := true } t
  | ' ' :: t => readFlags { f with space := true } t
  | '#' :: t => readFlags { f with alternate := true } t
  | '0' :: t => readFlags { f with zero := true } t
  | t => (f, t)

/-- Fills a text up to the width of a directive. -/
def pad (d : Directive) (fill : Char) (t : Text) : Text :=
  let gap := List.replicate (d.width - t.length) fill
  if d.flags.left then t ++ gap else gap ++ t

/-- The sign of a number. -/
def signOf (f : Flags) (negative : Bool) : Text :=
  if negative then ['-'] else if f.plus then ['+'] else if f.space then [' '] else []

/-- A number with its sign and what comes before its digits, filled with zeros if asked for. -/
def padNumber (d : Directive) (sign lead digits : Text) : Text :=
  if d.flags.zero && !d.flags.left then
    let gap := d.width - (sign.length + lead.length + digits.length)
    sign ++ lead ++ List.replicate gap '0' ++ digits
  else pad d ' ' (sign ++ lead ++ digits)

/-- A text argument. -/
def putText (d : Directive) (t : Text) : Text :=
  pad d ' ' (match d.precision with
    | some n => t.take n
    | none => t)

/-- An argument as a text, if all its whole numbers can be written. -/
def textOf (shown : Json → Text) (v : Json) : Except TemplateFault Text :=
  if v.longNumber?.isSome then .error (.numeral .tooLongToWrite) else .ok (shown v)

/-- A text with every character beyond ASCII written by its code point. -/
def asciiOnly (t : Text) : Text :=
  t.flatMap fun c =>
    if c.toNat < 128 then [c]
    else if c.toNat < 0x100 then '\\' :: 'x' :: Text.hexDigits 2 c.toNat
    else if c.toNat < 0x10000 then '\\' :: 'u' :: Text.hexDigits 4 c.toNat
    else '\\' :: 'U' :: Text.hexDigits 8 c.toNat

/-- The whole number of an argument, toward zero if fractions are taken. -/
def wholeOf (takesFractions : Bool) : Json → Except TemplateFault Int
  | .int n => .ok n
  | .bool b => .ok (if b then 1 else 0)
  | .real r =>
    if !takesFractions then .error .arguments
    else
      match r with
      | .finite negative m e => .ok (Binary64.truncate negative m e)
      | .infinite _ => .error .tooGreat
      | .notNumber => .error .notNumber
  | _ => .error .arguments

/-- A whole number argument in a base. -/
def putWhole (d : Directive) (base : Nat) (mark : Text) (capital : Bool) (n : Int) :
    Except TemplateFault Text :=
  let ds := Nat.toDigits base n.natAbs
  if base = 10 ∧ ds.length > Numeral.digitLimit then .error (.numeral .tooLongToWrite)
  else
    let ds := if capital then ds.map Char.toUpper else ds
    let ds := List.replicate (d.precision.getD 0 - ds.length) '0' ++ ds
    let lead := if d.flags.alternate then mark else []
    .ok (padNumber d (signOf d.flags (n < 0)) lead ds)

/-- The number of an argument that is to be written as a real one. -/
def realOf : Json → Except TemplateFault Binary64
  | .real r => .ok r
  | .bool b => .ok (Binary64.ofRatio false (if b then 1 else 0) 1)
  | .int n =>
    match Binary64.ofRatio (n < 0) n.natAbs 1 with
    | .infinite _ => .error .tooGreat
    | r => .ok r
  | _ => .error .arguments

/-- A real number argument. -/
def putReal (d : Directive) (letter : Char) (r : Binary64) : Text :=
  let capital := letter.isUpper
  let places := d.precision.getD 6
  let word (t : Text) : Text := if capital then t.map Char.toUpper else t
  match r with
  | .notNumber => padNumber d (signOf d.flags false) [] (word "nan".toList)
  | .infinite negative => padNumber d (signOf d.flags negative) [] (word "inf".toList)
  | .finite negative m e =>
    let mark := if capital then 'E' else 'e'
    let size :=
      match letter.toLower with
      | 'f' => Binary64.fixed d.flags.alternate places m e
      | 'e' => Binary64.scientific d.flags.alternate mark places m e
      | _ => Binary64.general d.flags.alternate mark places m e
    padNumber d (signOf d.flags negative) [] size

/-- The character of an argument. -/
def charOf : Json → Except TemplateFault Text
  | .text [c] => .ok [c]
  | .int n => if 0 ≤ n ∧ n < 0x110000 then .ok [Char.ofNat n.toNat] else .error .tooGreat
  | .bool b => .ok [Char.ofNat (if b then 1 else 0)]
  | _ => .error .arguments

/-- An argument under a directive with a letter at an index of the template. -/
def put (d : Directive) (letter : Char) (index : Nat) (v : Json) : Except TemplateFault Text :=
  match letter with
  | 's' => (textOf Json.shown v).map (putText d)
  | 'r' => (textOf Json.inner v).map (putText d)
  | 'a' => (textOf (fun v => asciiOnly v.inner) v).map (putText d)
  | 'd' | 'i' | 'u' => do putWhole d 10 [] false (← wholeOf true v)
  | 'x' => do putWhole d 16 ['0', 'x'] false (← wholeOf false v)
  | 'X' => do putWhole d 16 ['0', 'X'] true (← wholeOf false v)
  | 'o' => do putWhole d 8 ['0', 'o'] false (← wholeOf false v)
  | 'e' | 'E' | 'f' | 'F' | 'g' | 'G' => do pure (putReal d letter (← realOf v))
  | 'c' => (charOf v).map (pad d ' ')
  | c => .error (.letter c index)

/-! ## Templates -/

/-- The arguments of a template. -/
inductive Arguments
  /-- Arguments in order. -/
  | ordered (values : List Json)
  /-- One value as a whole, which no directive has to use.  Directives with names pick the fields of
  an object; the first one without a name stands for the value itself, and `used` says whether there
  was one, or one with a name. -/
  | whole (v : Json) (used : Bool)
deriving Repr

/-- The next argument, and those after it. -/
def Arguments.next : Arguments → Except TemplateFault (Json × Arguments)
  | .ordered (v :: vs) => .ok (v, .ordered vs)
  | .whole v false => .ok (v, .whole v true)
  | .ordered [] | .whole _ true => .error .arguments

/-- Whether no argument is left that had to be used. -/
def Arguments.used : Arguments → Bool
  | .ordered vs => vs.isEmpty
  | .whole _ _ => true

/-- The argument with a name. -/
def Arguments.named (name : Text) : Arguments → Except TemplateFault Json
  | .whole (.object fields) _ =>
    match Json.field? name fields with
    | some v => .ok v
    | none => .error .missing
  | .whole _ _ | .ordered _ => .error .arguments

/-- Reads the name of an argument up to its closing parenthesis, with `depth` parentheses open. -/
def readArgumentName : Nat → Text → Option (Text × Text)
  | _, [] => none
  | depth, c :: t =>
    if c = ')' then
      match depth with
      | 0 => some ([], t)
      | depth + 1 => (readArgumentName depth t).map fun (name, t) => (c :: name, t)
    else
      let depth := if c = '(' then depth + 1 else depth
      (readArgumentName depth t).map fun (name, t) => (c :: name, t)

/-- The greatest width. -/
def widthLimit : Nat := 0x7FFFFFFFFFFFFFFF

/-- The greatest precision. -/
def precisionLimit : Nat := 0x7FFFFFFF

/-- Reads the number of a width or precision, which an argument may give.  One beyond the limit is
the given fault in the template, and another one in an argument. -/
def readSize (limit : Nat) (beyond : TemplateFault) (args : Arguments) :
    Text → Except TemplateFault (Option Int × Arguments × Text)
  | '*' :: t => do
    let (v, args) ← args.next
    match v with
    | .int n =>
      if n < -(limit : Int) - 1 ∨ (limit : Int) < n then throw .tooGreat else pure (some n, args, t)
    | .bool b => pure (some (if b then 1 else 0), args, t)
    | _ => throw .arguments
  | t =>
    let ds := t.takeWhile Char.isDigit
    if Numeral.value ds > limit then .error beyond
    else .ok (if ds.isEmpty then none else some (Numeral.value ds), args, t.dropWhile Char.isDigit)

/-- Reads a precision after its point. -/
def readPrecision (args : Arguments) :
    Text → Except TemplateFault (Option Nat × Arguments × Text)
  | '.' :: t => do
    let (n, args, t) ← readSize precisionLimit .precisionTooGreat args t
    pure (some (n.getD 0).toNat, args, t)
  | t => .ok (none, args, t)

/-- Drops the letter that once gave the size of a number. -/
def dropSizeLetter : Text → Text
  | 'h' :: t => t
  | 'l' :: t => t
  | 'L' :: t => t
  | t => t

/-- Fills the directive that starts after a percent sign.  `total` is the length of the template.
A name picks the argument it names, which is then the only one. -/
def fillDirective (total : Nat) (args : Arguments) (t : Text) :
    Except TemplateFault (Text × Arguments × Text) := do
  let (others, own, t) ← match t with
    | '(' :: t =>
      match args with
      | .ordered _ => throw TemplateFault.arguments
      | .whole whole _ =>
        match readArgumentName 0 t with
        | none => throw TemplateFault.incompleteName
        | some (name, t) => do
          let v ← args.named name
          pure (some (Arguments.whole whole true), Arguments.ordered [v], t)
    | t => pure (none, args, t)
  let (flags, t) := readFlags {} t
  let (width, own, t) ← readSize widthLimit .widthTooGreat own t
  let (precision, own, t) ← readPrecision own t
  let flags := if width.any (· < 0) then { flags with left := true } else flags
  let d : Directive := { flags, width := (width.getD 0).natAbs, precision }
  match dropSizeLetter t with
  | [] => throw TemplateFault.incomplete
  | letter :: t => do
    let (v, own) ← own.next
    let text ← put d letter (total - t.length - 1) v
    pure (text, others.getD own, t)

/-- Fills the rest of a template. -/
def fillFrom (total : Nat) : Nat → Arguments → Text → Except TemplateFault Text
  | 0, _, t => .ok t
  | steps + 1, args, t =>
    let plain := t.takeWhile (· ≠ '%')
    match t.dropWhile (· ≠ '%') with
    | [] => if args.used then .ok plain else .error .arguments
    | '%' :: '%' :: t => (fillFrom total steps args t).map fun rest => plain ++ '%' :: rest
    | _ :: t => do
      let (text, args, t) ← fillDirective total args t
      let rest ← fillFrom total steps args t
      pure (plain ++ text ++ rest)

/-- Fills a template. -/
def fill (template : Text) (args : Arguments) : Except TemplateFault Text :=
  fillFrom template.length (template.length + 1) args template

end Retrace.Journal
