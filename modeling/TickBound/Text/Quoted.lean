import TickBound.Number.Numeral
import TickBound.Text.Printable

/-!
# Quoted texts

A text between single quotes, or between double quotes when it holds single ones and no double ones.
The quote and the backslash are escaped, and so is every character that is not printable, so that two
texts never have the same quoted form.
-/

namespace TickBound

namespace Text

/-- The quote that surrounds a text. -/
def quoteFor (cs : List Char) : Char :=
  if cs.contains '\'' && !cs.contains '"' then '"' else '\''

/-- A code point as two, four or eight hexadecimal digits, as many as it needs. -/
def codeEscape (c : Char) : List Char :=
  let n := c.toNat
  if n < 0x100 then '\\' :: 'x' :: Number.codeDigits 2 n
  else if n < 0x10000 then '\\' :: 'u' :: Number.codeDigits 4 n
  else '\\' :: 'U' :: Number.codeDigits 8 n

/-- How one character is written between quotes. -/
def quotedChar (quote c : Char) : List Char :=
  if c = quote || c = '\\' then ['\\', c]
  else if c = '\t' then ['\\', 't']
  else if c = '\n' then ['\\', 'n']
  else if c = '\r' then ['\\', 'r']
  else if isPrintable c then [c]
  else codeEscape c

def quote (cs : List Char) : List Char :=
  let q := quoteFor cs
  q :: (cs.flatMap (quotedChar q) ++ [q])

/-- A text with every character beyond ASCII escaped. -/
def escapeBeyondAscii (cs : List Char) : List Char :=
  cs.flatMap fun c => if c.toNat < 0x80 then [c] else codeEscape c

def quoted (s : String) : String :=
  String.ofList (quote s.toList)

/-- A list of texts: their quoted forms between brackets. -/
def quotedList (ss : List String) : String :=
  "[" ++ ", ".intercalate (ss.map quoted) ++ "]"

end Text

end TickBound
