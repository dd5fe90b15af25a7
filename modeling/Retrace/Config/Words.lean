import Retrace.Config.Further
import Retrace.Config.Schema

/-!
# Words about settings

A plain host: it reads bytes by a few encodings, knows of no homes, and understands words that set a
key of a section, as `--section.key=value` or as two words, words that set a section to JSON, and
the two that ask for help.  Words and rules about words that it does not understand it cannot read.

The help is laid out for a terminal of 80 columns.
-/

namespace Retrace.Config

open Yaml (Value)

/-! ## Encodings -/

namespace Host

/-- The character of each byte, where none may have a code from a limit on. -/
def decodeBelow (limit : Nat) (bytes : List UInt8) : Option Text :=
  if bytes.all fun b => b.toNat < limit then some (bytes.map fun b => Char.ofNat b.toNat) else none

/-- The text of bytes in UTF-8. -/
def decodeUtf8 (bytes : List UInt8) : Option Text := (Utf8.decode bytes).toOption

/-- The text of bytes in UTF-8, without a mark at their start. -/
def decodeMarked (bytes : List UInt8) : Option Text :=
  (decodeUtf8 bytes).map fun t => (Text.dropLead? ['\ufeff'] t).getD t

/-- Encodings by their names. -/
def decoders : List (Text × (List UInt8 → Option Text)) := [
  ("utf-8".toList, decodeUtf8), ("utf8".toList, decodeUtf8),
  ("utf-8-sig".toList, decodeMarked),
  ("ascii".toList, decodeBelow 128), ("us-ascii".toList, decodeBelow 128),
  ("latin-1".toList, decodeBelow 256), ("latin1".toList, decodeBelow 256),
  ("iso-8859-1".toList, decodeBelow 256)]

/-- The encoding of a name, in any case and with underscores for dashes. -/
def plainDecoder? (name : Text) : Option (List UInt8 → Option Text) :=
  decoders.lookup (Text.lower (name.map fun c => if c = '_' then '-' else c))

end Host

/-! ## What can be set -/

/-- What a word can set. -/
structure Setter where
  /-- The section, and the key if the word is not for the whole section. -/
  name : Text
  /-- What stands for the value in the help. -/
  shape : Text
  hint : Text
  /-- The value that is set where none is given. -/
  otherwise : Option Text := none

namespace Setter

/-- The spelling of the switch. -/
def spelling (s : Setter) : Text := '-' :: '-' :: s.name

/-- The switch with its value as the help shows it. -/
def shown (s : Setter) : Text :=
  s.spelling ++ ' ' :: if s.otherwise.isSome then '[' :: s.shape ++ [']'] else s.shape

/-- The word for a key. -/
def ofKey (name : Text) (key : String × String × String) : Setter :=
  let (key, shape, default) := key
  { name := name ++ '.' :: key.toList, shape := shape.toList
    hint := "(default: ".toList ++ default.toList ++ [')'] }

/-- The word for a section as a whole. -/
def ofSection (name : Text) : Setter where
  name
  shape := "JSON".toList
  hint := "set ".toList ++ name ++ " from JSON string (default: \x7b\x7d)".toList
  otherwise := some "\x7b\x7d".toList

/-- The words for a section, where `json` allows one for the whole. -/
def forSection (json : Bool) (name : Text) (keys : List (String × String × String)) :
    Text × List Setter :=
  (name, (if json then [ofSection name] else []) ++ keys.map (ofKey name))

/-- The words for all sections. -/
def table (json : Bool) : List (Text × List Setter) := [
  forSection json traceNames.name [
    ("marker", "str", "JavascriptException"),
    ("block_separator", "str", "")],
  forSection json formatNames.name [
    ("shorten", "bool", "True"),
    ("excluded_prefix_marker", "str", "node_modules")],
  forSection json loggingNames.name [
    ("level", "\x7bDEBUG,INFO,WARNING,ERROR,CRITICAL\x7d", "WARNING"),
    ("format", "\x7bjson,console\x7d", "console")]]

end Setter

/-! ## Help -/

namespace Words

/-- The columns that text may fill. -/
def width : Nat := 78

/-- Spaces. -/
def indent (n : Nat) : Text := List.replicate n ' '

/-- Parts on lines of at most `width` columns with an indent, where the first line has been begun
and its length is given. -/
def fold (n : Nat) : Nat → List Text → Text
  | _, [] => ['\n']
  | length, part :: parts =>
    if length + 1 + part.length > width then
      '\n' :: indent n ++ part ++ fold n (n + part.length) parts
    else ' ' :: part ++ fold n (length + 1 + part.length) parts

/-- How words are used in a program of a name. -/
def usage (program : Text) (setters : List Setter) : Text :=
  let opening := "usage: ".toList ++ program
  let parts := "[-h]".toList :: setters.map fun s => '[' :: s.shown ++ [']']
  opening ++ fold (opening.length + 1) opening.length parts

/-- A line of the help, or two where what is explained is long. -/
def row (shown hint : Text) : Text :=
  let gap := if shown.length ≤ 20 then indent (22 - shown.length) else '\n' :: indent 24
  indent 2 ++ shown ++ gap ++ hint ++ ['\n']

/-- The help. -/
def help (program : Text) (table : List (Text × List Setter)) : Text :=
  usage program (table.flatMap (·.2))
    ++ "\nRoot configuration for crashlyfix.\n\noptions:\n".toList
    ++ row "-h, --help".toList "show this help message and exit".toList
    ++ table.flatMap fun (name, setters) =>
      '\n' :: name ++ " options:\n".toList ++ setters.flatMap fun s => row s.shown s.hint

/-! ## Reading -/

/-- What words come to. -/
inductive Heard
  /-- They set what has these names. -/
  | set (vars : List (Text × Option Text))
  | help
  | wrong (message : Text)

/-- Whether a word is a switch and no value. -/
def isSwitch (word : Text) : Bool :=
  match word with
  | '-' :: c :: _ => !c.isDigit && ' ' ∉ word
  | _ => false

/-- The value of a switch in a word, after an equals sign or as the next word, with the words that
are left. -/
def takeValue? (s : Setter) (word : Text) (words : List Text) : Option (Text × List Text) :=
  match word.dropWhile (· ≠ '='), words with
  | _ :: value, words => some (value, words)
  | [], [] => s.otherwise.map (·, [])
  | [], next :: words =>
    if isSwitch next then s.otherwise.map (·, next :: words) else some (next, words)

/-- Reads words, after some that have set something and some that have not been understood.  The
first argument bounds their number. -/
def hear (setters : List Setter) :
    Nat → List (Text × Option Text) → List Text → List Text → Heard
  | steps + 1, vars, strays, word :: words =>
    if word = "-h".toList || word = "--help".toList then .help
    else
      match setters.find? fun s => s.spelling = word.takeWhile (· ≠ '=') with
      | none => hear setters steps vars (strays ++ [word]) words
      | some s =>
        match takeValue? s word words with
        | some (value, words) => hear setters steps (vars ++ [(s.name, some value)]) strays words
        | none => .wrong ("argument ".toList ++ s.spelling ++ ": expected one argument".toList)
  | _, vars, strays, _ =>
    if strays.isEmpty then .set vars
    else .wrong ("unrecognized arguments: ".toList ++ Text.join [' '] strays)

/-! ## What words say -/

/-- What comes of words, for a program of a name. -/
def answer (program : Text) (json caseMatters : Bool) (words : List Text) : Spoken :=
  let table := Setter.table json
  let setters := table.flatMap (·.2)
  match hear setters words.length [] [] words with
  | .help => .ended { status := 0, stdout := help program table }
  | .wrong message =>
    let complaint := usage program setters ++ program ++ ": error: ".toList ++ message ++ ['\n']
    .ended { status := 2, complaint }
  | .set vars =>
    let r : Rules := {
      lead := [], nesting := ['.'], caseMatters
      nullText := some (if json then "null".toList else "None".toList) }
    match variableLayer r (r.variablesOf vars) sections with
    | .ok layer => .settings layer
    | .error _ => .refused

/-- The rules about words that are understood. -/
def knownKeys : List Text := ["_cli_prog_name".toList, "_cli_avoid_json".toList]

/-- The text of a value that is one. -/
def text? : Value → Option Text
  | .text t => some t
  | _ => none

/-- What comes of the words in the rules of a document, for a program of a name that has words of
its own.  The number zero stands for no words, as false does. -/
def speak (program : Text) (argv : List Text) (ruleFields : Fields) : Spoken :=
  let rule (key : String) : Option Value := Rules.setting? key.toList ruleFields
  let isStrange (key : Text) : Bool :=
    (Rules.setting? key ruleFields).isSome && !knownKeys.contains key
  let json := !(rule "_cli_avoid_json").any Value.isSomething
  let caseMatters := (rule "_case_sensitive").any Value.isSomething
  if Rules.wordKeys.any isStrange then .broken
  else
    match ((rule "_cli_prog_name").map text?).getD (some program) with
    | none => .broken
    | some program =>
      match Rules.setting? Rules.wordsKey ruleFields with
      | none | some (.bool false) => .settings []
      | some (.bool true) => answer program json caseMatters argv
      | some (.list items) =>
        match items.mapM text? with
        | none => .broken
        | some words => answer program json caseMatters words
      | some (.int n) => if n = 0 then .settings [] else .refused
      | some (.real r) => if r.isWhole 0 then .settings [] else .refused
      | some _ => .refused

end Words

/-- The plain host of a program of a name that has words of its own. -/
def Host.plain (program : Text) (argv : List Text) : Host where
  decoder? := plainDecoder?
  home? _ := none
  speak := Words.speak program argv

end Retrace.Config
