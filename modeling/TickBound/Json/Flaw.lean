import TickBound.Number.Numeral

/-!
# What is wrong with a text that is no data value

A flaw is what was expected or found, together with its place: line and column from one, and the number
of characters before it.
-/

namespace TickBound

namespace Json

inductive Flaw where
  | byteOrderMark
  | valueExpected
  | nameExpected
  | colonExpected
  | commaExpected
  | unterminatedString
  | controlCharacter
  | unknownEscape
  | brokenCodeEscape
  | extraData
  deriving DecidableEq

def Flaw.wording : Flaw → String
  | byteOrderMark => "Unexpected UTF-8 BOM (decode using utf-8-sig)"
  | valueExpected => "Expecting value"
  | nameExpected => "Expecting property name enclosed in double quotes"
  | colonExpected => "Expecting ':' delimiter"
  | commaExpected => "Expecting ',' delimiter"
  | unterminatedString => "Unterminated string starting at"
  | controlCharacter => "Invalid control character at"
  | unknownEscape => "Invalid \\escape"
  | brokenCodeEscape => "Invalid \\uXXXX escape"
  | extraData => "Extra data"

/-- A place in a text, as the number of characters before it. -/
structure Place where
  line : Nat
  column : Nat
  offset : Nat

/-- The place behind the characters `before`. -/
def Place.behind (before : List Char) : Place :=
  ⟨before.count '\n' + 1, (before.reverse.takeWhile (· ≠ '\n')).length + 1, before.length⟩

/-- Why a text is refused. -/
inductive Refusal where
  /-- The text is not the text of a value. -/
  | malformed (flaw : Flaw) (place : Place)
  /-- An integer has more decimal digits than the limit. -/
  | tooManyDigits (count : Nat)

/-- The message of an integer text over the limit. -/
def tooManyDigitsMessage (count : Nat) : String :=
  s!"Exceeds the limit ({Number.decimal Number.decimalLimit} digits) for integer string conversion: " ++
    s!"value has {Number.decimal count} digits; use sys.set_int_max_str_digits() to increase the limit"

def Refusal.message : Refusal → String
  | malformed flaw place =>
      s!"{flaw.wording}: line {Number.decimal place.line} column {Number.decimal place.column} " ++
        s!"(char {Number.decimal place.offset})"
  | tooManyDigits count => tooManyDigitsMessage count

end Json

end TickBound
