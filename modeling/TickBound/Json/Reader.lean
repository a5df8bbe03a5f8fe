import TickBound.Json.Basic
import TickBound.Json.Flaw
import TickBound.Number.Real

/-!
# Reading data values

The reader takes a value off the front of a text and leaves the rest. Besides the values of the data
format it accepts `NaN`, `Infinity` and `-Infinity`. A value takes one step, and the items or members
inside of it one more for each character that opens or parts them, so a budget of twice the number of
characters and one is never used up.

Values may be nested to any depth. A reader that goes down by recursion has a limit to that, at some
thousand levels; it is a limit of resources and left out here and wherever a text is read or written.
-/

namespace TickBound

namespace Json

/-- Why reading stopped, and what was left of the text at the place of the flaw. -/
inductive Stop where
  | flawed (flaw : Flaw) (left : List Char)
  | tooManyDigits (count : Nat)

/-- Space, tab, line feed and carriage return. -/
def isSpace (c : Char) : Bool :=
  c = ' ' || c = '\t' || c = '\n' || c = '\r'

def skipSpace (cs : List Char) : List Char :=
  cs.dropWhile isSpace

/-- The character that a letter stands for after a backslash. -/
def escaped? : Char → Option Char
  | '"' => some '"'
  | '\\' => some '\\'
  | '/' => some '/'
  | 'b' => some '\x08'
  | 'f' => some '\x0c'
  | 'n' => some '\n'
  | 'r' => some '\r'
  | 't' => some '\t'
  | _ => none

/-- The value of four hexadecimal digits. -/
def codeUnit? (a b c d : Char) : Option Nat := do
  let ds ← [a, b, c, d].mapM (Number.digitIn? 16)
  pure (Number.ofDigits 16 ds)

def isHighSurrogate (n : Nat) : Bool := 0xD800 ≤ n && n < 0xDC00

def isLowSurrogate (n : Nat) : Bool := 0xDC00 ≤ n && n < 0xE000

/-- What a code unit that stands alone stands for: a character, or half of a pair. -/
def loneUnit (n : Nat) : Mark :=
  if isHighSurrogate n || isLowSurrogate n then .half n else .char (Char.ofNat n)

/-- The character of a pair of code units. -/
def pairedUnits (high low : Nat) : Mark :=
  .char (Char.ofNat (0x10000 + (high - 0xD800) * 0x400 + (low - 0xDC00)))

/-- One mark of a string, or its end. -/
inductive Piece where
  | close (rest : List Char)
  | mark (m : Mark) (rest : List Char)
  | stop (reason : Stop)

/-- The second half of an escaped pair: `none` when what follows is no low code unit, so that the first
half stands alone. A pair counts only when a character follows it. -/
def lowHalf? : List Char → Option (Except Stop (Nat × List Char))
  | '\\' :: 'u' :: a :: b :: c :: d :: next :: rest =>
      match codeUnit? a b c d with
      | none => some (.error (.flawed .brokenCodeEscape ('u' :: a :: b :: c :: d :: next :: rest)))
      | some n => if isLowSurrogate n then some (.ok (n, next :: rest)) else none
  | _ => none

/-- An escape of a code unit, behind its `u`; `fromLetter` is the text from the `u` on. -/
def codePiece (fromLetter : List Char) : List Char → Piece
  | a :: b :: c :: d :: next :: rest =>
      match codeUnit? a b c d with
      | none => .stop (.flawed .brokenCodeEscape fromLetter)
      | some n =>
          if isHighSurrogate n then
            match lowHalf? (next :: rest) with
            | some (.ok (low, after)) => .mark (pairedUnits n low) after
            | some (.error reason) => .stop reason
            | none => .mark (loneUnit n) (next :: rest)
          else .mark (loneUnit n) (next :: rest)
  | _ => .stop (.flawed .brokenCodeEscape fromLetter)

/-- The next mark of a string whose opening quote begins `opening`. -/
def nextPiece (opening : List Char) : List Char → Piece
  | [] => .stop (.flawed .unterminatedString opening)
  | '"' :: rest => .close rest
  | ['\\'] => .stop (.flawed .unterminatedString opening)
  | '\\' :: 'u' :: rest => codePiece ('u' :: rest) rest
  | '\\' :: c :: rest =>
      match escaped? c with
      | some e => .mark (.char e) rest
      | none => .stop (.flawed .unknownEscape ('\\' :: c :: rest))
  | c :: rest =>
      if c.toNat < 0x20 then .stop (.flawed .controlCharacter (c :: rest)) else .mark (.char c) rest

/-- The marks of a string, behind its opening quote. -/
def takeMarks (opening : List Char) : Nat → List Char → Except Stop (List Mark × List Char)
  | 0, cs => .error (.flawed .unterminatedString cs)
  | budget + 1, cs =>
      match nextPiece opening cs with
      | .close rest => .ok ([], rest)
      | .stop reason => .error reason
      | .mark m rest =>
          match takeMarks opening budget rest with
          | .ok (more, after) => .ok (m :: more, after)
          | .error reason => .error reason

def takeString (opening : List Char) : Except Stop (DataText × List Char) :=
  match takeMarks opening (opening.length + 1) (opening.drop 1) with
  | .ok (marks, rest) => .ok (⟨marks⟩, rest)
  | .error reason => .error reason

/-- The digits before the point: a zero alone, or digits that do not begin with one. -/
def takeWhole : List Char → List Char × List Char
  | '0' :: rest => (['0'], rest)
  | cs => (cs.takeWhile Number.isPlainDigit, cs.dropWhile Number.isPlainDigit)

/-- A point with at least one digit behind it. -/
def takeFraction : List Char → List Char × List Char
  | '.' :: d :: rest =>
      if Number.isPlainDigit d then
        (d :: rest.takeWhile Number.isPlainDigit, rest.dropWhile Number.isPlainDigit)
      else ([], '.' :: d :: rest)
  | cs => ([], cs)

/-- An exponent with at least one digit; without one the letter is left in the text. -/
def takeExponent : List Char → Option Int × List Char
  | c :: rest =>
      let (negative, digits) := Number.takeSign rest
      let ds := digits.takeWhile Number.isPlainDigit
      if (c = 'e' || c = 'E') && !ds.isEmpty then
        (some (Number.signed negative (Number.plainDigits ds)), digits.dropWhile Number.isPlainDigit)
      else (none, c :: rest)
  | [] => (none, [])

/-- A number behind its sign; `start` is the text from the sign on. -/
def takeUnsigned (start : List Char) (negative : Bool) (cs : List Char) : Except Stop (Json × List Char) :=
  let (whole, afterWhole) := takeWhole cs
  if whole.isEmpty then .error (.flawed .valueExpected start)
  else
    let (fraction, afterFraction) := takeFraction afterWhole
    let (exponent, rest) := takeExponent afterFraction
    if fraction.isEmpty && exponent.isNone then
      if Number.decimalLimit < whole.length then .error (.tooManyDigits whole.length)
      else .ok (.int (Number.signed negative (Number.plainDigits whole)), rest)
    else
      .ok (.real (Number.nearestReal negative (Number.plainDigits (whole ++ fraction))
        (exponent.getD 0 - (fraction.length : Int))), rest)

/-- A number, or the refusal of what is no value. -/
def takeNumber : List Char → Except Stop (Json × List Char)
  | '-' :: rest => takeUnsigned ('-' :: rest) true rest
  | cs => takeUnsigned cs false cs

/-- The values written as words. -/
def takeWord? : List Char → Option (Json × List Char)
  | 'n' :: 'u' :: 'l' :: 'l' :: rest => some (.null, rest)
  | 't' :: 'r' :: 'u' :: 'e' :: rest => some (.bool true, rest)
  | 'f' :: 'a' :: 'l' :: 's' :: 'e' :: rest => some (.bool false, rest)
  | 'N' :: 'a' :: 'N' :: rest => some (.real (Float.ofBits 0x7FF8000000000000), rest)
  | 'I' :: 'n' :: 'f' :: 'i' :: 'n' :: 'i' :: 't' :: 'y' :: rest =>
      some (.real (Float.ofBits 0x7FF0000000000000), rest)
  | '-' :: 'I' :: 'n' :: 'f' :: 'i' :: 'n' :: 'i' :: 't' :: 'y' :: rest =>
      some (.real (Float.ofBits 0xFFF0000000000000), rest)
  | _ => none

def takeName : List Char → Except Stop (DataText × List Char)
  | '"' :: rest => do
      let (name, after) ← takeString ('"' :: rest)
      match skipSpace after with
      | ':' :: behind => .ok (name, skipSpace behind)
      | other => .error (.flawed .colonExpected other)
  | cs => .error (.flawed .nameExpected cs)

mutual

/-- A value, with no space in front of it. -/
def takeValue : Nat → List Char → Except Stop (Json × List Char)
  | 0, cs => .error (.flawed .valueExpected cs)
  | budget + 1, cs =>
      match cs with
      | '"' :: _ => do
          let (s, rest) ← takeString cs
          .ok (.string s, rest)
      | '[' :: rest =>
          match skipSpace rest with
          | ']' :: after => .ok (.array [], after)
          | inside => do
              let (items, after) ← takeItems budget inside
              .ok (.array items, after)
      | '{' :: rest =>
          match skipSpace rest with
          | '}' :: after => .ok (.object [], after)
          | inside => do
              let (members, after) ← takeMembers budget inside
              .ok (.object (Members.ofPairs members), after)
      | _ =>
          match takeWord? cs with
          | some taken => .ok taken
          | none => takeNumber cs

/-- The items of an array up to its bracket; there is at least one. -/
def takeItems : Nat → List Char → Except Stop (List Json × List Char)
  | 0, cs => .error (.flawed .valueExpected cs)
  | budget + 1, cs => do
      let (item, after) ← takeValue budget cs
      match skipSpace after with
      | ']' :: rest => .ok ([item], rest)
      | ',' :: rest => do
          let (more, last) ← takeItems budget (skipSpace rest)
          .ok (item :: more, last)
      | other => .error (.flawed .commaExpected other)

/-- The members of an object up to its brace; there is at least one. -/
def takeMembers : Nat → List Char → Except Stop (List (DataText × Json) × List Char)
  | 0, cs => .error (.flawed .nameExpected cs)
  | budget + 1, cs => do
      let (name, inside) ← takeName cs
      let (value, after) ← takeValue budget inside
      match skipSpace after with
      | '}' :: rest => .ok ([(name, value)], rest)
      | ',' :: rest => do
          let (more, last) ← takeMembers budget (skipSpace rest)
          .ok ((name, value) :: more, last)
      | other => .error (.flawed .commaExpected other)

end

/-- The refusal that belongs to a stop in `text`. -/
def refusal (text : List Char) : Stop → Refusal
  | .flawed flaw left => .malformed flaw (Place.behind (text.take (text.length - left.length)))
  | .tooManyDigits count => .tooManyDigits count

/-- The steps that are enough for a value in front of a text. -/
def enoughSteps (text : List Char) : Nat :=
  2 * text.length + 1

/-- Reads a text that holds one value and nothing else but space. -/
def readChars (text : List Char) : Except Stop Json :=
  match text with
  | '\uFEFF' :: _ => .error (.flawed .byteOrderMark text)
  | _ => do
      let (value, rest) ← takeValue (enoughSteps text) (skipSpace text)
      match skipSpace rest with
      | [] => .ok value
      | other => .error (.flawed .extraData other)

/-- The value in a text, or why it has none, however deeply it is nested. -/
def read (text : String) : Except Refusal Json :=
  (readChars text.toList).mapError (refusal text.toList)

end Json

end TickBound
