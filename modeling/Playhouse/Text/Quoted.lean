/-
Module: Playhouse.Text.Quoted
Purpose: Text in quotation marks, with everything invisible spelled out.
Main exports: quoted
-/
import Playhouse.Text.Printable

namespace Playhouse.Text

/-- The last `width` hexadecimal digits of a number, in lower case. -/
def hexDigits : Nat → Nat → List Char
  | 0, _ => []
  | width + 1, value => hexDigits width (value / 16) ++ [Nat.digitChar (value % 16)]

/-- One character inside a quotation.  The backslash and the surrounding mark
are escaped, three blanks have short names, and other characters without a
shape are written by their code point in as few of two, four or eight
hexadecimal digits as hold it. -/
def quotedCharacter (mark : Char) (c : Char) : List Char :=
  if c == mark || c == '\\' then ['\\', c]
  else if c == '\n' then ['\\', 'n']
  else if c == '\r' then ['\\', 'r']
  else if c == '\t' then ['\\', 't']
  else if isPrintable c then [c]
  else if c.toNat < 0x100 then '\\' :: 'x' :: hexDigits 2 c.toNat
  else if c.toNat < 0x10000 then '\\' :: 'u' :: hexDigits 4 c.toNat
  else '\\' :: 'U' :: hexDigits 8 c.toNat

/-- The mark around a quotation: the double one only for a text that holds the
single mark and not the double one. -/
def quotationMark (text : List Char) : Char :=
  if text.contains '\x27' && !text.contains '\x22' then '\x22' else '\x27'

/-- A text in quotation marks. -/
def quoted (text : List Char) : List Char :=
  let mark := quotationMark text
  mark :: (text.flatMap (quotedCharacter mark) ++ [mark])

end Playhouse.Text
