import TickBound.Json.Basic
import TickBound.Number.RealText

/-!
# Writing data values

The text of a value on one line of ASCII characters, with a space behind each comma and colon. What
lies beyond ASCII is escaped by its code units.
-/

namespace TickBound

namespace Json

/-- One code unit as an escape of four digits. -/
def unitEscape (n : Nat) : List Char :=
  '\\' :: 'u' :: Number.codeDigits 4 n

/-- A character by its code units: one, or a pair from U+10000 on. -/
def unitsEscape (c : Char) : List Char :=
  let n := c.toNat
  if n < 0x10000 then unitEscape n
  else unitEscape (0xD800 + (n - 0x10000) / 0x400) ++ unitEscape (0xDC00 + (n - 0x10000) % 0x400)

/-- How one character is written in a string. -/
def writtenChar (c : Char) : List Char :=
  if c = '"' then ['\\', '"']
  else if c = '\\' then ['\\', '\\']
  else if c = '\n' then ['\\', 'n']
  else if c = '\r' then ['\\', 'r']
  else if c = '\t' then ['\\', 't']
  else if c = '\x0c' then ['\\', 'f']
  else if c = '\x08' then ['\\', 'b']
  else if 0x20 ≤ c.toNat && c.toNat ≤ 0x7E then [c]
  else unitsEscape c

def writtenMark : Mark → List Char
  | .char c => writtenChar c
  | .half unit => unitEscape unit

def writtenString (s : DataText) : List Char :=
  '"' :: (s.marks.flatMap writtenMark ++ ['"'])

/-- The names of the values that are no numbers. -/
def writtenNames : Number.SpecialNames := ⟨"NaN", "Infinity"⟩

mutual

def written : Json → List Char
  | null => ['n', 'u', 'l', 'l']
  | bool true => ['t', 'r', 'u', 'e']
  | bool false => ['f', 'a', 'l', 's', 'e']
  | int n => (Number.decimal n).toList
  | real x => (Number.realText writtenNames x).toList
  | string s => writtenString s
  | array items => '[' :: (writtenItems items ++ [']'])
  | object members => '{' :: (writtenMembers members ++ ['}'])

def writtenItems : List Json → List Char
  | [] => []
  | [item] => written item
  | item :: more => written item ++ ',' :: ' ' :: writtenItems more

def writtenMembers : List (DataText × Json) → List Char
  | [] => []
  | [(name, value)] => writtenString name ++ ':' :: ' ' :: written value
  | (name, value) :: more =>
      writtenString name ++ ':' :: ' ' :: (written value ++ ',' :: ' ' :: writtenMembers more)

end

def text (value : Json) : String :=
  String.ofList (written value)

end Json

end TickBound
