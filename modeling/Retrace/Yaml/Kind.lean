import Retrace.Yaml.Moment
import Retrace.Yaml.Number

/-!
# Kinds of nodes

The tag of a node says what kind of value it is.  A plain scalar without a tag has the kind of the
first form that it fits.
-/

namespace Retrace.Yaml

/-- What a tag says of a node. -/
inductive Kind
  | null
  | truth
  | integer
  | real
  | binary
  | moment
  | text
  | sequence
  | mapping
  | set
  /-- A list of pairs, with or without the promise that no key comes twice. -/
  | pairs
  /-- A key whose value is merged into the mapping. -/
  | merge
  /-- A key whose value stands for the mapping. -/
  | default
  /-- A tag without a meaning. -/
  | unknown
deriving DecidableEq, Repr

namespace Kind

/-- What the tags of all known kinds start with. -/
def lead : Text := "tag:yaml.org,2002:".toList

/-- The known kinds by the rest of their tags. -/
def names : List (Text × Kind) := [
  ("null".toList, null), ("bool".toList, truth), ("int".toList, integer), ("float".toList, real),
  ("binary".toList, binary), ("timestamp".toList, moment), ("str".toList, text),
  ("seq".toList, sequence), ("map".toList, mapping), ("set".toList, set), ("omap".toList, pairs),
  ("pairs".toList, pairs), ("merge".toList, merge), ("value".toList, default)]

/-- The kind that a tag stands for. -/
def ofTag (tag : Text) : Kind :=
  match Text.dropLead? lead tag with
  | some name => (names.lookup name).getD unknown
  | none => unknown

/-- The words that stand for a truth value, in small letters. -/
def truthWords : List (Text × Bool) := [
  ("yes".toList, true), ("no".toList, false), ("true".toList, true), ("false".toList, false),
  ("on".toList, true), ("off".toList, false)]

/-- A word with its first letter as a capital. -/
def capitalized : Text → Text
  | [] => []
  | c :: t => c.toUpper :: t

/-- The three ways in which a plain word is written. -/
def spellings (word : Text) : List Text := [word, capitalized word, word.map Char.toUpper]

/-- Whether a plain scalar is one of some words. -/
def isWord (words : List Text) (t : Text) : Bool := (words.flatMap spellings).contains t

/-- The kind of a plain scalar without a tag.  A line feed at its end does not count. -/
def ofPlain (t : Text) : Kind :=
  let body := Text.dropFinalLineEnd t
  if t.isEmpty then null
  else if body.isEmpty then text
  else if isWord (truthWords.map (·.1)) body then truth
  else if isReal body then real
  else if isInteger body then integer
  else if body = "<<".toList then merge
  else if body = ['~'] ∨ isWord ["null".toList] body then null
  else if Moment.isPlain body then moment
  else if body = ['='] then default
  else if body = ['!'] ∨ body = ['&'] ∨ body = ['*'] then unknown
  else text

end Kind

end Retrace.Yaml
