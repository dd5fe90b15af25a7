import Retrace.Config.Environment
import Retrace.Json.Shown
import Retrace.Text.Case
import Retrace.Yaml.Construction

/-!
# How settings are read from variables

A document may say how settings are read from variables, under keys that start with an underscore.
Keys of that form that say nothing here are passed over.
-/

namespace Retrace.Config

open Yaml (Value)

/-- The fields of a mapping. -/
abbrev Fields := List (Text × Value)

/-- How the bytes of files with variables are read. -/
inductive Encoding
  | utf8
  | named (name : Text)
  /-- By something that is no name. -/
  | unnamed
deriving DecidableEq, Repr

/-- How settings are read from variables. -/
structure Rules where
  /-- What the names of variables for settings start with. -/
  lead : Text := "CRASHLYFIX_".toList
  /-- Whether names can be put together from what they start with. -/
  leadFits : Bool := true
  /-- Whether capital and small letters of names differ. -/
  caseMatters : Bool := false
  /-- What stands between the names of a section and of a key.  If it is empty, no variable is for a
  key. -/
  nesting : Text := "__".toList
  /-- How what stands between names is shown, if it is something else than a text.  No name of a
  variable can be cut there. -/
  strangeNesting : Option Text := none
  /-- The most cuts into keys of what follows the name of a section, if there is a limit. -/
  cuts : Option Nat := none
  /-- Whether a variable with an empty text counts as not set. -/
  dropsEmpty : Bool := false
  /-- The text that stands for null. -/
  nullText : Option Text := none
  /-- The paths of files with more variables, those that count most last, with what stands among
  them and is no path. -/
  variableFiles : List (Option Text) := []
  encoding : Encoding := .utf8
  /-- The paths of directories with a file for each section, those that count most last, with what
  stands among them and is no path. -/
  sectionDirectories : List (Option Text) := []
  /-- Whether settings are read from words of a command line too. -/
  hasWords : Bool := false
deriving DecidableEq, Repr

namespace Rules

/-- The key of what is being configured, which no document may set. -/
def ownKey : Text := "__pydantic_self__".toList

/-- The key of the words that settings are read from. -/
def wordsKey : Text := "_cli_parse_args".toList

/-- The keys of the rules about variables. -/
def variableKeys : List Text := [
  "_case_sensitive".toList, "_env_prefix".toList, "_env_nested_delimiter".toList,
  "_env_nested_max_split".toList, "_env_ignore_empty".toList, "_env_parse_none_str".toList,
  "_env_file".toList, "_env_file_encoding".toList, "_secrets_dir".toList]

/-- The keys of the rules about words, which count only if there are words. -/
def wordKeys : List Text := [
  "_cli_prog_name".toList, "_cli_settings_source".toList, "_cli_parse_none_str".toList,
  "_cli_hide_none_type".toList, "_cli_avoid_json".toList, "_cli_enforce_required".toList,
  "_cli_use_class_docs_for_groups".toList, "_cli_exit_on_error".toList, "_cli_prefix".toList,
  "_cli_flag_prefix_char".toList, "_cli_implicit_flags".toList,
  "_cli_ignore_unknown_args".toList, "_cli_kebab_case".toList, "_cli_shortcuts".toList]

/-- The keys of rules that are passed over. -/
def idleKeys : List Text := [
  "_nested_model_default_partial_update".toList, "_env_prefix_target".toList,
  "_env_parse_enums".toList]

/-- The keys of all rules. -/
def keys : List Text := variableKeys ++ wordsKey :: wordKeys ++ idleKeys

/-- Whether a key is that of a rule. -/
def isKey (key : Text) : Bool := keys.contains key

/-- The value of a rule, if it is set. -/
def setting? (key : Text) (fields : Fields) : Option Value :=
  match Json.field? key fields with
  | some .null => none
  | v => v

/-- The start of all names, and whether names can be put together from it.  There is none for a
value that has no length. -/
def readLead? : Value → Option (Text × Bool)
  | .text t => some (t, true)
  | .null | .bool _ | .int _ | .real _ | .other _ => none
  | .bytes _ | .list _ | .mapping _ _ => some ([], false)

/-- The text between names; what is no text separates nothing. -/
def readNesting : Value → Text
  | .text t => t
  | _ => []

mutual

/-- A value as JSON, if it is put together from values that JSON has. -/
def json? : Value → Option Json
  | .null => some .null
  | .bool b => some (.bool b)
  | .int n => some (.int n)
  | .real r => some (.real r)
  | .text t => some (.text t)
  | .list items => (jsonItems? items).map .list
  | .mapping fields false => (jsonFields? fields).map .object
  | .mapping _ true | .bytes _ | .other _ => none

/-- The items of a list as JSON. -/
def jsonItems? : List Value → Option (List Json)
  | [] => some []
  | v :: items => do pure ((← json? v) :: (← jsonItems? items))

/-- Fields as JSON. -/
def jsonFields? : Fields → Option (List (Text × Json))
  | [] => some []
  | (key, v) :: fields => do pure ((key, ← json? v) :: (← jsonFields? fields))

end

/-- How something between names is shown that is no text. -/
def readStrangeNesting (v : Value) : Option Text :=
  match v with
  | .text _ => none
  | v => if v.isSomething then (json? v).map Json.shown else none

/-- The limit of cuts, one less than the given number.  There is none for a value that nothing can
be taken from. -/
def readCuts? : Value → Option (Option Nat)
  | .int n => some (if 0 < n then some (n.toNat - 1) else none)
  | .bool b => some (if b then some 0 else none)
  | v => if v.isSomething then none else some none

/-- A text that stands for another value. -/
def readStandIn : Value → Option Text
  | .text t => some t
  | _ => none

/-- One path or several, with what stands among them and is no path. -/
def readPaths : Value → List (Option Text)
  | .text t => [some t]
  | .list items => items.map fun item =>
    match item with
    | .text t => some t
    | _ => none
  | .mapping fields otherKeys =>
    fields.map (fun (key, _) => some key) ++ if otherKeys then [none] else []
  | .bytes [] | .other false => []
  | _ => [none]

/-- How files are read; a value that counts as nothing leaves it as it is. -/
def readEncoding (v : Value) : Encoding :=
  match v with
  | .text (c :: t) => .named (c :: t)
  | v => if v.isSomething then .unnamed else .utf8

/-- The rules of a document, unless one has a value of a kind that it cannot have. -/
def ofFields? (fields : Fields) : Option Rules := do
  let d : Rules := {}
  let rule (key : String) : Option Value := setting? key.toList fields
  if (Json.field? ownKey fields).isSome then none
  let cuts ← ((rule "_env_nested_max_split").map readCuts?).getD (some d.cuts)
  let (lead, leadFits) ← ((rule "_env_prefix").map readLead?).getD (some (d.lead, d.leadFits))
  pure {
    lead, leadFits, cuts
    caseMatters := (rule "_case_sensitive").any Value.isSomething
    nesting := ((rule "_env_nested_delimiter").map readNesting).getD d.nesting
    strangeNesting := (rule "_env_nested_delimiter").bind readStrangeNesting
    dropsEmpty := (rule "_env_ignore_empty").any Value.isSomething
    nullText := (rule "_env_parse_none_str").bind readStandIn
    variableFiles := ((rule "_env_file").map readPaths).getD []
    encoding := ((rule "_env_file_encoding").map readEncoding).getD d.encoding
    sectionDirectories := ((rule "_secrets_dir").map readPaths).getD []
    hasWords := (setting? wordsKey fields).isSome }

/-- A name as it counts. -/
def inCase (r : Rules) (name : Text) : Text := if r.caseMatters then name else Text.lower name

/-- The name of the variable for a section. -/
def sectionVariable (r : Rules) (name : Text) : Text := r.inCase (r.lead ++ name)

end Rules

/-! ## Variables -/

/-- What a variable says. -/
inductive Said
  | text (t : Text)
  /-- The text that stands for null. -/
  | null
  /-- Nothing: the variable is named in a file without a text. -/
  | nothing
deriving DecidableEq, Repr

/-- Variables by the names that count. -/
abbrev Variables := List (Text × Said)

namespace Rules

/-- What a variable with a text, or without, says. -/
def said (r : Rules) : Option Text → Said
  | none => .nothing
  | some t => if r.nullText = some t then .null else .text t

/-- Variables by the names that count.  Of two with one name the later counts. -/
def variablesOf (r : Rules) (named : List (Text × Option Text)) : Variables :=
  (named.filter fun (_, t) => !(r.dropsEmpty && t = some [])).foldl
    (fun vars (name, t) => Json.setField (r.inCase name) (r.said t) vars) []

end Rules

end Retrace.Config
