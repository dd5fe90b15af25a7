import Retrace.Text.Digit
import Retrace.Text.Printable

/-!
# Quoted texts

A quoted text stands between quotes on one line.  The quote is `'`, or `"` for a text that holds
`'` and no `"`.  A backslash and the quote in use are written after a backslash, the common
controls have a letter, and every other unprintable character is written by its code point.
-/

namespace Retrace.Text

/-- The quote that a text is put in. -/
def quoteFor (t : Text) : Char :=
  if '\'' ∈ t ∧ '"' ∉ t then '"' else '\''

/-- The quoted form of one character between the given quotes. -/
def quotedChar (quote c : Char) : Text :=
  if c = quote ∨ c = '\\' then ['\\', c]
  else if c = '\n' then ['\\', 'n']
  else if c = '\r' then ['\\', 'r']
  else if c = '\t' then ['\\', 't']
  else if isPrintable c then [c]
  else if c.toNat < 0x100 then '\\' :: 'x' :: hexDigits 2 c.toNat
  else if c.toNat < 0x10000 then '\\' :: 'u' :: hexDigits 4 c.toNat
  else '\\' :: 'U' :: hexDigits 8 c.toNat

/-- The quoted form of a text. -/
def quoted (t : Text) : Text :=
  let quote := quoteFor t
  quote :: (t.flatMap (quotedChar quote) ++ [quote])

end Retrace.Text
