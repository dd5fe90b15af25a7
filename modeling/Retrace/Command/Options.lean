import Retrace.Journal.Level
import Retrace.Text.Digit

/-!
# The words of a command line

A command line is a list of words: operands and switches.  A switch has a short spelling of one
dash and a letter, a long one of two dashes and a word, or both; a long one may be cut as long as
it fits no other.  The value of a switch follows as a word of its own, after an equals sign, or
directly after the letter of a short spelling.  What follows a short switch without a value is the
letters of more switches, up to one with a value.  A word of two dashes makes all words after it
operands.

The first two operands must stand next to each other: a switch between them closes the list.
-/

namespace Retrace.Command

/-- What can be asked for by a switch. -/
inductive Switch
  | help
  | version
  | long
  | trace
  | output
  | config
  | debug
  | logFormat
deriving DecidableEq, Repr

namespace Switch

/-- The spellings of a switch, the short one first. -/
def spellings : Switch → List Text
  | help => ["-h".toList, "--help".toList]
  | version => ["--version".toList]
  | long => ["-l".toList, "--long".toList]
  | trace => ["-t".toList, "--trace".toList]
  | output => ["-o".toList, "--output".toList]
  | config => ["-c".toList, "--config".toList]
  | debug => ["-d".toList, "--debug".toList]
  | logFormat => ["--log-format".toList]

/-- All switches, in the order in which they are listed. -/
def all : List Switch := [help, version, long, trace, output, config, debug, logFormat]

/-- All spellings and what they stand for, in order. -/
def table : List (Text × Switch) := all.flatMap fun s => s.spellings.map (·, s)

/-- The switch of a spelling. -/
def ofSpelling? (t : Text) : Option Switch := table.lookup t

/-- Whether a switch has a value. -/
def takesValue : Switch → Bool
  | trace | output | config | logFormat => true
  | help | version | long | debug => false

/-- The name of a switch in messages. -/
def title (s : Switch) : Text := Text.join ['/'] s.spellings

end Switch

/-! ## Kinds of words -/

/-- A switch as it is spelled in a word. -/
structure Spelled where
  switch : Switch
  isShort : Bool
  /-- What stands in the word after the switch, without an equals sign between them. -/
  given : Option Text
deriving DecidableEq, Repr

/-- A word by its kind. -/
inductive Word
  | operand (t : Text)
  /-- The two dashes after which all words are operands. -/
  | marker
  | switch (s : Spelled)
  /-- A word that looks like a switch and is none. -/
  | unknown (t : Text)
deriving DecidableEq, Repr

/-- Two dashes. -/
def dashes : Text := ['-', '-']

/-- The parts of a text before and after its first equals sign. -/
def splitEquals (t : Text) : Text × Option Text :=
  match t.dropWhile (· ≠ '=') with
  | [] => (t, none)
  | _ :: value => (t.takeWhile (· ≠ '='), some value)

/-- Whether a word is a negative number, which makes it an operand. -/
def isNegativeNumber (t : Text) : Bool :=
  let isDigit (c : Char) : Bool := (Text.decimalValue? c).isSome
  match Text.dropFinalLineEnd t with
  | '-' :: t =>
    match t.dropWhile isDigit with
    | [] => !t.isEmpty
    | '.' :: fraction => !fraction.isEmpty && fraction.all isDigit
    | _ => false
  | _ => false

/-- Whether a spelling is short. -/
def isShortSpelling (t : Text) : Bool := t[1]? ≠ some '-'

/-- The switches that a word may stand for when its spelling is not whole, each with its whole
spelling. -/
def candidates (t : Text) : List (Text × Spelled) :=
  if Text.startsWith dashes t then
    let (lead, value) := splitEquals t
    (Switch.table.filter fun (spelling, _) => Text.startsWith lead spelling).map
      fun (spelling, switch) =>
        (spelling, { switch, isShort := false, given := value })
  else
    Switch.table.filterMap fun (spelling, switch) =>
      if spelling = t.take 2 then
        some (spelling, { switch, isShort := true, given := some (t.drop 2) })
      else if Text.startsWith t spelling then
        some (spelling, { switch, isShort := isShortSpelling spelling, given := none })
      else none

/-- A word that starts with a dash and is neither a whole spelling nor one with a value after an
equals sign.  The error is that it may stand for several switches. -/
def readCut (t : Text) : Except Text Word :=
  match candidates t with
  | [(_, s)] => .ok (.switch s)
  | [] =>
    if isNegativeNumber t || ' ' ∈ t then .ok (.operand t) else .ok (.unknown t)
  | several =>
    .error ("ambiguous option: ".toList ++ t ++ " could match ".toList
      ++ Text.join ", ".toList (several.map (·.1)))

/-- A word by its kind. -/
def readWord (t : Text) : Except Text Word :=
  if t.head? ≠ some '-' then .ok (.operand t)
  else
    match Switch.ofSpelling? t with
    | some switch => .ok (.switch { switch, isShort := isShortSpelling t, given := none })
    | none =>
      if t.length = 1 then .ok (.operand t)
      else
        match splitEquals t with
        | (spelling, some value) =>
          match Switch.ofSpelling? spelling with
          | some switch =>
            let isShort := isShortSpelling spelling
            .ok (.switch { switch, isShort, given := some value })
          | none => readCut t
        | _ => readCut t

/-- The words of a command line by their kinds. -/
def readWords : List Text → Except Text (List Word)
  | [] => .ok []
  | t :: ts =>
    if t = dashes then .ok (.marker :: ts.map .operand)
    else do
      let word ← readWord t
      let words ← readWords ts
      pure (word :: words)

/-! ## Options -/

/-- What a switch has for its value. -/
inductive Value
  | text (t : Text)
  /-- Nothing: two dashes in place of a value are dropped, as they are before operands. -/
  | dropped
deriving DecidableEq, Repr

namespace Value

/-- The value that a text stands for. -/
def ofText (t : Text) : Value := if t = dashes then dropped else text t

/-- The text of a value. -/
def text? : Value → Option Text
  | text t => some t
  | dropped => none

end Value

/-- What a command line asks for. -/
structure Options where
  sourceMap : Option Text := none
  stackTrace : Option Text := none
  long : Bool := false
  trace : Option Value := none
  output : Option Value := none
  config : Option Value := none
  debug : Bool := false
  logFormat : Option Journal.Format := none
deriving DecidableEq, Repr

/-- The paths of options: those of the files to read, and of the one to write. -/
def Options.paths (o : Options) : List Text :=
  [o.config.bind Value.text?, o.sourceMap, o.stackTrace, o.output.bind Value.text?].filterMap id

/-- Why a command line does not come to options. -/
inductive Stop
  | help
  | version
  | refused (message : Text)
deriving DecidableEq, Repr

/-- A refusal about a switch. -/
def refuse (s : Switch) (message : Text) : Stop :=
  .refused ("argument ".toList ++ s.title ++ ": ".toList ++ message)

/-- A switch with its value. -/
structure Request where
  switch : Switch
  value : Value := .dropped
deriving DecidableEq, Repr

/-- Options with what a switch asks for. -/
def Options.apply (o : Options) (r : Request) : Except Stop Options :=
  match r.switch with
  | .help => .error .help
  | .version => .error .version
  | .long => .ok { o with long := true }
  | .debug => .ok { o with debug := true }
  | .trace => .ok { o with trace := some r.value }
  | .output => .ok { o with output := some r.value }
  | .config => .ok { o with config := some r.value }
  | .logFormat =>
    match r.value with
    | .dropped => .ok { o with logFormat := none }
    | .text name =>
      match Journal.Format.ofName? name with
      | some format => .ok { o with logFormat := some format }
      | none =>
        .error (refuse .logFormat ("invalid choice: ".toList ++ Text.quoted name
          ++ " (choose from ".toList
          ++ Text.join ", ".toList (Journal.Format.all.map fun f => Text.quoted f.name) ++ [')']))

/-- The refusal of a value for a switch that has none. -/
def ignoredValue (s : Switch) (value : Text) : Stop :=
  refuse s ("ignored explicit argument ".toList ++ Text.quoted value)

/-- Reads a switch that ends its word, with the words after it. -/
def readLast (s : Switch) (rest : List Word) : Except Stop (List Request × List Word) :=
  if !s.takesValue then .ok ([{ switch := s }], rest)
  else
    match rest with
    | .operand value :: rest => .ok ([{ switch := s, value := .text value }], rest)
    | _ => .error (refuse s "expected one argument".toList)

/-- Reads a short switch with what stands after it in its word: its value if it has one, else the
letter of another switch and what stands after that. -/
def readLetters (s : Switch) : Text → List Word → Except Stop (List Request × List Word)
  | [], rest => readLast s rest
  | c :: more, rest =>
    if s.takesValue then .ok ([{ switch := s, value := .ofText (c :: more) }], rest)
    else
      match Switch.ofSpelling? ['-', c] with
      | none => .error (ignoredValue s (c :: more))
      | some next =>
        (readLetters next more rest).map fun (requests, rest) =>
          ({ switch := s } :: requests, rest)

/-- Reads the switches of a word, with the words after it. -/
def readSwitch (s : Spelled) (rest : List Word) : Except Stop (List Request × List Word) :=
  match s.given with
  | none => readLast s.switch rest
  | some given =>
    if s.switch.takesValue then .ok ([{ switch := s.switch, value := .ofText given }], rest)
    else if s.isShort && !given.isEmpty then readLetters s.switch given rest
    else .error (ignoredValue s.switch given)

/-! ## Operands -/

/-- The text of a word that is no switch. -/
def Word.text : Word → Text
  | .operand t | .unknown t => t
  | .marker => dashes
  | .switch _ => []

/-- Whether a word is an operand or the marker before operands. -/
def Word.isPlain : Word → Bool
  | .operand _ | .marker => true
  | .switch _ | .unknown _ => false

/-- Takes the marker, if it comes next. -/
def takeMarker : List Word → List Text × List Word
  | .marker :: words => ([dashes], words)
  | words => ([], words)

/-- Takes an operand with the marker before or after it.  The first pair of dashes among them does
not count, even one that is an operand. -/
def takeOperand (words : List Word) : Option Text × List Word :=
  let (before, words) := takeMarker words
  let (operand, words) : List Text × List Word := match words with
    | .operand t :: words => ([t], words)
    | words => ([], words)
  let (after, words) := takeMarker words
  ((before ++ operand ++ after).erase dashes |>.head?, words)

/-- The state of reading a command line. -/
structure Reading where
  options : Options := {}
  /-- Whether the operands are still to come. -/
  awaiting : Bool := true
  strays : List Text := []

/-- Takes both operands, if they are still to come. -/
def takeOperands (r : Reading) (words : List Word) : Reading × List Word :=
  if !r.awaiting then (r, words)
  else
    let (sourceMap, words) := takeOperand words
    let (stackTrace, words) := takeOperand words
    ({ r with options := { r.options with sourceMap, stackTrace }, awaiting := false }, words)

/-- Reads words.  The first argument bounds their number. -/
def readLine : Nat → Reading → List Word → Except Stop Reading
  | 0, r, _ => .ok r
  | steps + 1, r, words =>
    match words with
    | .switch s :: rest =>
      match readSwitch s rest with
      | .error e => .error e
      | .ok (requests, rest) =>
        match requests.foldlM Options.apply r.options with
        | .error e => .error e
        | .ok options => readLine steps { r with options } rest
    | .unknown t :: rest => readLine steps { r with strays := r.strays ++ [t] } rest
    | words =>
      -- Plain words, or the end of the line.
      let (r, words) := takeOperands r words
      let run := words.takeWhile Word.isPlain
      let r := { r with strays := r.strays ++ run.map Word.text }
      match words.dropWhile Word.isPlain with
      | [] => .ok r
      | rest => readLine steps r rest

/-- The options of a command line. -/
def readOptions (argv : List Text) : Except Stop Options :=
  match readWords argv with
  | .error message => .error (.refused message)
  | .ok words =>
    match readLine (words.length + 1) {} words with
    | .error e => .error e
    | .ok r =>
      if r.strays.isEmpty then .ok r.options
      else .error (.refused ("unrecognized arguments: ".toList ++ Text.join [' '] r.strays))

end Retrace.Command
