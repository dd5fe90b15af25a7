import Retrace.Config.Environment
import Retrace.Json.Basic
import Retrace.Text.Digit

/-!
# Files of variables

A file of variables has lines of a name, an equals sign and a text.  The text may stand in single or
double quotes, in which a backslash and a letter may stand for another character and which may go
over line ends; without quotes it ends with its line or before a comment.  A line that has not this
form is passed over.

A text refers to other variables as `$` and a name in braces, where a text to take for a variable
that is not set may follow the name after a colon and a minus sign.
-/

namespace Retrace.Config.VariableFile

/-- Whether a character is a space of any kind. -/
def isSpace (c : Char) : Bool := Text.isBlank c || (28 ≤ c.toNat && c.toNat ≤ 31)

/-- Whether a character is a space inside a line. -/
def isInnerSpace (c : Char) : Bool := isSpace c && c ≠ '\n'

/-- Whether a character goes on a line. -/
def isInLine (c : Char) : Bool := c ≠ '\n'

/-- A text without the spaces at its end. -/
def dropFinalSpaces (t : Text) : Text := (t.reverse.dropWhile isSpace).reverse

/-- A text without the spaces at its start and end. -/
def trim (t : Text) : Text := dropFinalSpaces (t.dropWhile isSpace)

/-! ## Lines -/

/-- Reads the rest of a text in quotes up to the first quote without a backslash before it.  If
there is none, the last quote ends it. -/
def readQuoted (quote : Char) : Text → Option (Text × Text)
  | [] => none
  | '\\' :: c :: t =>
    if c = quote then
      match readQuoted quote t with
      | some (inner, rest) => some ('\\' :: c :: inner, rest)
      | none => some (['\\'], t)
    else (readQuoted quote (c :: t)).map fun (inner, rest) => ('\\' :: inner, rest)
  | c :: t =>
    if c = quote then some ([], t)
    else (readQuoted quote t).map fun (inner, rest) => (c :: inner, rest)

/-- The characters that a letter after a backslash stands for in double quotes. -/
def doubleEscapes : List (Char × Char) := [
  ('\\', '\\'), ('\'', '\''), ('"', '"'), ('a', '\x07'), ('b', '\x08'), ('f', '\x0c'),
  ('n', '\n'), ('r', '\r'), ('t', '\t'), ('v', '\x0b')]

/-- The characters that a letter after a backslash stands for in single quotes. -/
def singleEscapes : List (Char × Char) := [('\\', '\\'), ('\'', '\'')]

/-- A text with what stands after backslashes put in their place. -/
def unescape (escapes : List (Char × Char)) : Text → Text
  | [] => []
  | '\\' :: c :: t =>
    match escapes.lookup c with
    | some meant => meant :: unescape escapes t
    | none => '\\' :: unescape escapes (c :: t)
  | c :: t => c :: unescape escapes t

/-- A text without the comment after a space. -/
def dropComment : Text → Text
  | [] => []
  | c :: t =>
    if isSpace c && (t.dropWhile isSpace).head? = some '#' then [] else c :: dropComment t

/-- Reads the text of a variable after its equals sign. -/
def readText (t : Text) : Option (Text × Text) :=
  match t with
  | '\'' :: t => (readQuoted '\'' t).map fun (inner, t) => (unescape singleEscapes inner, t)
  | '"' :: t => (readQuoted '"' t).map fun (inner, t) => (unescape doubleEscapes inner, t)
  | t => some (dropFinalSpaces (dropComment (t.takeWhile isInLine)), t.dropWhile isInLine)

/-- The text after a word that says that variables are for other programs too. -/
def dropExport (t : Text) : Text :=
  match Text.dropLead? "export".toList t with
  | some (c :: rest) => if isInnerSpace c then rest.dropWhile isInnerSpace else t
  | _ => t

/-- Reads the name of a variable; a comment has none.  The error is the text that is left. -/
def readName (t : Text) : Except Text (Option Text × Text) :=
  match t with
  | '#' :: _ => .ok (none, t)
  | '\'' :: rest =>
    match rest.takeWhile (· ≠ '\''), rest.dropWhile (· ≠ '\'') with
    | c :: name, _ :: rest => .ok (some (c :: name), rest)
    | _, _ => .error t
  | _ =>
    let isNameChar (c : Char) : Bool := c ≠ '=' && c ≠ '#' && !isSpace c
    match t.takeWhile isNameChar with
    | [] => .error t
    | name => .ok (some name, t.dropWhile isNameChar)

/-- A variable as it is written: its name and its text, if it has one. -/
abbrev Line := Text × Option Text

/-- Reads the end of a line with a comment before it. -/
def readEnd (t : Text) : Except Text Text :=
  let t := match t.dropWhile isInnerSpace with
    | '#' :: comment => comment.dropWhile isInLine
    | _ => t
  match t.dropWhile isInnerSpace with
  | [] => .ok []
  | '\n' :: rest => .ok rest
  | _ => .error t

/-- Reads a variable. -/
def readLine (t : Text) : Except Text (Option Line × Text) := do
  let (name, t) ← readName (dropExport t)
  let t := t.dropWhile isInnerSpace
  let (text, t) ← match t with
    | '=' :: rest =>
      let rest := rest.dropWhile isInnerSpace
      match readText rest with
      | some (text, t) => .ok (some text, t)
      | none => .error rest
    | t => pure (none, t)
  pure (name.map (·, text), ← readEnd t)

/-- Reads the variables of a text.  The first argument bounds their number. -/
def readLines : Nat → Text → List Line
  | 0, _ => []
  | steps + 1, t =>
    match t.dropWhile isSpace with
    | [] => []
    | t =>
      match readLine t with
      | .ok (line, rest) => line.toList ++ readLines steps rest
      | .error rest => readLines steps ((rest.dropWhile isInLine).drop 1)

/-! ## References -/

/-- A reference at the start of a text: its name, the text to take for a variable that is not set,
and the text after it. -/
def reference? (t : Text) : Option (Text × Text × Text) := do
  let rest ← Text.dropLead? Environment.opening t
  let name := rest.takeWhile fun c => c ≠ '}' && c ≠ ':'
  match rest.dropWhile fun c => c ≠ '}' && c ≠ ':' with
  | '}' :: after => some (name, [], after)
  | ':' :: '-' :: more =>
    match more.dropWhile (· ≠ '}') with
    | _ :: after => some (name, more.takeWhile (· ≠ '}'), after)
    | [] => none
  | _ => none

/-- A text with its references replaced, where `skip` characters of a reference already met are
still to be passed over. -/
def resolveAfter (vars : List Line) : Nat → Text → Text
  | _, [] => []
  | skip + 1, _ :: t => resolveAfter vars skip t
  | 0, c :: t =>
    match reference? (c :: t) with
    | some (name, otherwise, after) =>
      let text := match Json.field? name vars with
        | some text => text.getD []
        | none => otherwise
      text ++ resolveAfter vars (t.length - after.length) t
    | none => c :: resolveAfter vars 0 t

/-- The variables of lines, each with its references to the environment and to the variables before
it replaced. -/
def resolve (env : List Line) (lines : List Line) : List Line :=
  lines.foldl (fun vars (name, text) =>
    let known := vars.foldl (fun known (name, text) => Json.setField name text known) env
    Json.setField name (text.map (resolveAfter known 0)) vars) []

/-- The variables of a file with a text. -/
def parse (env : Environment) (t : Text) : List Line :=
  let known := env.foldl (fun known (name, text) => Json.setField name (some text) known) []
  resolve known (readLines (t.length + 1) t)

end Retrace.Config.VariableFile
