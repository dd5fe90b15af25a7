import Retrace.Text.Basic

/-!
# Variables of the environment in a text

A text may refer to variables: `$` and a name in braces stand for the value of the variable.  A
name is not empty and holds no closing brace.  References are replaced from left to right, and a
value is put in as it is, whatever it holds.
-/

namespace Retrace

/-- The variables of an environment, in order. -/
abbrev Environment := List (Text × Text)

namespace Environment

/-- The value of a variable; of two settings of one name the first counts. -/
def get? (env : Environment) (name : Text) : Option Text := env.lookup name

/-- A setting: a name, an equals sign and a value. -/
def setting? (t : Text) : Option (Text × Text) :=
  match t.dropWhile (· ≠ '=') with
  | [] => none
  | _ :: value => some (t.takeWhile (· ≠ '='), value)

/-- The variables of a block of settings, each ended by the character of code zero.  Of two settings
of one name the first is kept, and what is no setting is passed over. -/
def ofBlock (t : Text) : Environment :=
  ((Text.splitOn ['\x00'] t).filterMap setting?).eraseDupsBy fun v w => v.1 == w.1

/-- What a reference starts with. -/
def opening : Text := ['$', '{']

/-- A reference at the start of a text: its name, and the text after it. -/
def reference? (t : Text) : Option (Text × Text) :=
  match Text.dropLead? opening t with
  | none => none
  | some rest =>
    match rest.takeWhile (· ≠ '}'), rest.dropWhile (· ≠ '}') with
    | c :: name, _ :: after => some (c :: name, after)
    | _, _ => none

/-- A part of a text with references. -/
inductive Piece
  | char (c : Char)
  | reference (name : Text)
deriving DecidableEq, Repr

/-- The pieces of a text, where `skip` characters of a reference already met are still to be passed
over. -/
def piecesAfter : Nat → Text → List Piece
  | _, [] => []
  | skip + 1, _ :: t => piecesAfter skip t
  | 0, c :: t =>
    match reference? (c :: t) with
    | some (name, after) =>
      .reference name :: piecesAfter (t.length - after.length) t
    | none => .char c :: piecesAfter 0 t

/-- The pieces of a text. -/
def pieces (t : Text) : List Piece := piecesAfter 0 t

/-- The text that a piece stands for, or the name of the variable that is not set. -/
def Piece.text (env : Environment) : Piece → Except Text Text
  | .char c => .ok [c]
  | .reference name =>
    match env.get? name with
    | some value => .ok value
    | none => .error name

/-- A text with its references replaced, or the name of the first variable that is not set. -/
def replace (env : Environment) : List Piece → Except Text Text
  | [] => .ok []
  | piece :: pieces => do
    let t ← piece.text env
    let rest ← replace env pieces
    pure (t ++ rest)

/-- A text with its references replaced, or the name of the first variable that is not set. -/
def substitute (env : Environment) (t : Text) : Except Text Text := env.replace (pieces t)

end Environment

end Retrace
