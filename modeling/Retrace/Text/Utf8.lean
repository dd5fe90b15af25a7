import Retrace.Numeral
import Retrace.Text.Digit

/-!
# UTF-8

Bytes are read as pieces: characters, and the longest runs that could still have become a
character and did not.  A strict reading refuses bytes at the first such run and says why; a
lenient one puts the replacement character in its place.
-/

namespace Retrace.Utf8

/-- Why a run of bytes is no character. -/
inductive Reason
  /-- No character starts with the byte. -/
  | start
  /-- The byte after the run does not go on with it. -/
  | continuation
  /-- The bytes end inside a character. -/
  | truncated
deriving DecidableEq, Repr

/-- A piece of a list of bytes. -/
inductive Piece
  /-- A character of so many bytes. -/
  | char (c : Char) (size : Nat)
  /-- A run that is no character. -/
  | illFormed (size : Nat) (reason : Reason)
deriving DecidableEq, Repr

/-- The number of bytes of a piece. -/
def Piece.size : Piece → Nat
  | .char _ size => size
  | .illFormed size _ => size

/-- A character that has been read in part. -/
structure Pending where
  /-- The number of bytes still to come, which is not zero. -/
  owed : Nat
  /-- The bounds of the next byte. -/
  low : Nat
  high : Nat
  /-- The bits read so far. -/
  code : Nat
  /-- The number of bytes read so far. -/
  size : Nat
deriving DecidableEq, Repr

/-- What the first byte of a piece gives: a piece, or a character read in part. -/
def first (b : Nat) : List Piece × Option Pending :=
  if b < 0x80 then ([.char (Char.ofNat b) 1], none)
  else if b < 0xC2 then ([.illFormed 1 .start], none)
  else if b < 0xE0 then ([], some ⟨1, 0x80, 0xBF, b - 0xC0, 1⟩)
  else if b < 0xF0 then
    ([], some ⟨2, if b = 0xE0 then 0xA0 else 0x80, if b = 0xED then 0x9F else 0xBF, b - 0xE0, 1⟩)
  else if b < 0xF5 then
    ([], some ⟨3, if b = 0xF0 then 0x90 else 0x80, if b = 0xF4 then 0x8F else 0xBF, b - 0xF0, 1⟩)
  else ([.illFormed 1 .start], none)

/-- What the next byte gives after a character read in part. -/
def following (p : Pending) (b : Nat) : List Piece × Option Pending :=
  if p.low ≤ b ∧ b ≤ p.high then
    let code := p.code * 64 + (b - 0x80)
    if p.owed ≤ 1 then ([.char (Char.ofNat code) (p.size + 1)], none)
    else ([], some ⟨p.owed - 1, 0x80, 0xBF, code, p.size + 1⟩)
  else
    let (pieces, pending) := first b
    (.illFormed p.size .continuation :: pieces, pending)

/-- The pieces of bytes after a character read in part, if there is one. -/
def piecesFrom : Option Pending → List UInt8 → List Piece
  | none, [] => []
  | some p, [] => [.illFormed p.size .truncated]
  | pending, b :: bs =>
    let (pieces, pending) := match pending with
      | none => first b.toNat
      | some p => following p b.toNat
    pieces ++ piecesFrom pending bs

/-- The pieces of bytes. -/
def pieces (bs : List UInt8) : List Piece := piecesFrom none bs

/-- Why bytes are no text: the first run that is no character, and its first byte. -/
structure Fault where
  offset : Nat
  size : Nat
  byte : Nat
  reason : Reason
deriving DecidableEq, Repr

/-- The text of pieces that start at an offset. -/
def textOf (bs : List UInt8) : Nat → List Piece → Except Fault Text
  | _, [] => .ok []
  | offset, .char c size :: ps =>
    match textOf bs (offset + size) ps with
    | .ok t => .ok (c :: t)
    | .error f => .error f
  | offset, .illFormed size reason :: _ =>
    .error { offset, size, byte := ((bs[offset]?).map UInt8.toNat).getD 0, reason }

/-- The text of bytes. -/
def decode (bs : List UInt8) : Except Fault Text := textOf bs 0 (pieces bs)

/-- The text of bytes, with the replacement character for every run that is no character. -/
def decodeLenient (bs : List UInt8) : Text :=
  (pieces bs).map fun
    | .char c _ => c
    | .illFormed _ _ => '\uFFFD'

/-- The bytes of a text. -/
def encode (t : Text) : List UInt8 := t.flatMap String.utf8EncodeChar

/-- The wording of a reason. -/
def Reason.message : Reason → Text
  | .start => "invalid start byte".toList
  | .continuation => "invalid continuation byte".toList
  | .truncated => "unexpected end of data".toList

/-- The wording of a fault. -/
def Fault.message (f : Fault) : Text :=
  let place :=
    if f.size = 1 then
      "byte 0x".toList ++ Text.hexDigits 2 f.byte
        ++ " in position ".toList ++ Numeral.digits f.offset
    else
      "bytes in position ".toList ++ Numeral.digits f.offset ++ '-' ::
        Numeral.digits (f.offset + f.size - 1)
  "'utf-8' codec can't decode ".toList ++ place ++ ": ".toList ++ f.reason.message

end Retrace.Utf8
