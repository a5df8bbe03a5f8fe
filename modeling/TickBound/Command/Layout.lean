import TickBound.Number.Numeral
import TickBound.Text.DecimalDigit

/-!
# Layout of a value in a field

A layout says how wide a value is made, with which character and on which side, and how much of it is
kept. The language of layouts also has parts that are for numbers only; a text refuses them, and a number
refuses those of other numbers.
-/

namespace TickBound

namespace Command

/-- Why a layout does not apply to a value. -/
inductive LayoutFault where
  | numberTooLong
  | precisionMissing
  | bothSeparators
  | malformed (layout : List Char) (kind : String)
  | separatorWith (separator code : Char)
  | unknownCode (code : Char) (kind : String)
  | signForText
  | spaceForText
  | negativeZeroForText
  | alternateForText
  | signAwareForText
  | precisionForWhole
  | negativeZeroForWhole
  | signForCharacter
  | alternateForCharacter
  | notCharacter
  | precisionTooLarge
  | noRoom
  deriving DecidableEq

/-- A character in a message: itself, or its code if it is no visible character below `limit`. -/
def visible (limit : Nat) (c : Char) : String :=
  if 0x20 < c.toNat && c.toNat < limit then String.singleton c
  else "\\x" ++ String.ofList (Number.codeDigits 0 c.toNat)

/-- What a fault says; a field without room is refused without a word. -/
def LayoutFault.message : LayoutFault → String
  | numberTooLong => "Too many decimal digits in format string"
  | precisionMissing => "Format specifier missing precision"
  | bothSeparators => "Cannot specify both ',' and '_'."
  | malformed layout kind =>
      "Invalid format specifier '" ++ String.ofList layout ++ "' for object of type '" ++ kind ++ "'"
  | separatorWith separator code =>
      "Cannot specify '" ++ String.singleton separator ++ "' with '" ++ visible 128 code ++ "'."
  | unknownCode code kind =>
      "Unknown format code '" ++ visible 128 code ++ "' for object of type '" ++ kind ++ "'"
  | signForText => "Sign not allowed in string format specifier"
  | spaceForText => "Space not allowed in string format specifier"
  | negativeZeroForText => "Negative zero coercion (z) not allowed in string format specifier"
  | alternateForText => "Alternate form (#) not allowed in string format specifier"
  | signAwareForText => "'=' alignment not allowed in string format specifier"
  | precisionForWhole => "Precision not allowed in integer format specifier"
  | negativeZeroForWhole => "Negative zero coercion (z) not allowed in integer format specifier"
  | signForCharacter => "Sign not allowed with integer format specifier 'c'"
  | alternateForCharacter => "Alternate form (#) not allowed with integer format specifier 'c'"
  | notCharacter => "%c arg not in range(0x110000)"
  | precisionTooLarge => "precision too big"
  | noRoom => ""

/-- The largest number that a layout or an index may hold. -/
def largestNumber : Nat := 0x7FFFFFFFFFFFFFFF

def widestField : Nat := 0x40000000

/-- The decimal digits in front of a text, in any script, and the rest. -/
def takeDigits : List Char → List Nat × List Char
  | [] => ([], [])
  | c :: rest =>
      match Text.decimalDigit? c with
      | some d => let (ds, after) := takeDigits rest; (d :: ds, after)
      | none => ([], c :: rest)

/-- The number in front of a text, if there is one. -/
def takeNumber (cs : List Char) : Except LayoutFault (Option Nat × List Char) :=
  let (ds, rest) := takeDigits cs
  let n := ds.foldl (fun n d => n * 10 + d) 0
  if ds.isEmpty then .ok (none, rest)
  else if largestNumber < n then .error .numberTooLong
  else .ok (some n, rest)

/-- How a value is set into its field. -/
structure Layout where
  fill : Char
  align : Char
  sign : Option Char
  coercesZero : Bool
  alternate : Bool
  width : Option Nat
  separator : Option Char
  precision : Option Nat
  code : Char

def isAlign (c : Char) : Bool :=
  c = '<' || c = '>' || c = '=' || c = '^'

/-- The fill character and the alignment in front of a layout. -/
def takeAlign : List Char → Option Char × Option Char × List Char
  | f :: a :: rest =>
      if isAlign a then (some f, some a, rest)
      else if isAlign f then (none, some f, a :: rest)
      else (none, none, f :: a :: rest)
  | [a] => if isAlign a then (none, some a, []) else (none, none, [a])
  | [] => (none, none, [])

/-- One character in front of a layout, if it satisfies `p`. -/
def takeMark (p : Char → Bool) : List Char → Option Char × List Char
  | c :: rest => if p c then (some c, rest) else (none, c :: rest)
  | [] => (none, [])

/-- The separators of thousands: a comma or an underscore, not both. -/
def takeSeparator (cs : List Char) : Except LayoutFault (Option Char × List Char) :=
  match cs with
  | ',' :: '_' :: _ => .error .bothSeparators
  | '_' :: ',' :: _ => .error .bothSeparators
  | ',' :: rest => .ok (some ',', rest)
  | '_' :: rest => .ok (some '_', rest)
  | _ => .ok (none, cs)

/-- The precision behind a point. -/
def takePrecision : List Char → Except LayoutFault (Option Nat × List Char)
  | '.' :: rest => do
      match ← takeNumber rest with
      | (some n, after) => .ok (some n, after)
      | (none, _) => .error .precisionMissing
  | cs => .ok (none, cs)

/-- The codes of numbers, with which a separator of thousands may stand. -/
def takesSeparator (separator code : Char) : Bool :=
  ['d', 'e', 'f', 'g', 'E', 'G', '%', 'F', '\x00'].contains code ||
    (separator = '_' && ['b', 'o', 'x', 'X'].contains code)

/-- What a layout is taken to say where it is silent. -/
structure Habit where
  kind : String
  code : Char
  align : Char

/-- Texts stand on the left. -/
def Habit.ofTexts : Habit := ⟨"str", 's', '<'⟩

/-- The layout that a text describes. A zero in front of the width fills from the sign on if values
stand on the right. -/
def Layout.read (habit : Habit) (text : List Char) : Except LayoutFault Layout := do
  let (fill, align, afterAlign) := takeAlign text
  let (sign, afterSign) := takeMark (fun c => c = ' ' || c = '+' || c = '-') afterAlign
  let (zero, afterZero) := takeMark (· = 'z') afterSign
  let (hash, afterHash) := takeMark (· = '#') afterZero
  let (padding, afterPadding) := takeMark (fun c => fill.isNone && c = '0') afterHash
  let (width, afterWidth) ← takeNumber afterPadding
  let (separator, afterSeparator) ← takeSeparator afterWidth
  let (precision, rest) ← takePrecision afterSeparator
  let code ← match rest with
    | [] => .ok habit.code
    | [c] => .ok c
    | _ => .error (.malformed text habit.kind)
  match separator with
  | some mark => if !takesSeparator mark code then .error (.separatorWith mark code)
  | none => .ok ()
  .ok {
    fill := fill.getD (padding.getD ' ')
    align := align.getD (if padding.isSome && habit.align = '>' then '=' else habit.align)
    sign
    coercesZero := zero.isSome
    alternate := hash.isSome
    width
    separator
    precision
    code }

/-- The layout has no part that is for numbers only. -/
def Layout.forText (layout : Layout) : Except LayoutFault Unit :=
  if layout.code ≠ 's' then .error (.unknownCode layout.code "str")
  else if layout.sign = some ' ' then .error .spaceForText
  else if layout.sign.isSome then .error .signForText
  else if layout.coercesZero then .error .negativeZeroForText
  else if layout.alternate then .error .alternateForText
  else if layout.align = '=' then .error .signAwareForText
  else .ok ()

/-- There is room for the field. -/
def Layout.fits (layout : Layout) : Except LayoutFault Unit :=
  if widestField < layout.width.getD 0 then .error .noRoom else .ok ()

/-- How many fill characters go in front of a value of which `missing` characters are missing. A centred
value has the odd one behind it. -/
def Layout.before (layout : Layout) (missing : Nat) : Nat :=
  if layout.align = '>' then missing else if layout.align = '^' then missing / 2 else 0

/-- Sets a text into its field: cut to the precision, then filled up to the width. -/
def Layout.apply (layout : Layout) (value : List Char) : List Char :=
  let kept := match layout.precision with
    | some n => value.take n
    | none => value
  let missing := layout.width.getD 0 - kept.length
  let left := layout.before missing
  List.replicate left layout.fill ++ kept ++ List.replicate (missing - left) layout.fill

def layOut (description value : List Char) : Except LayoutFault (List Char) :=
  if description.isEmpty then .ok value
  else do
    let layout ← Layout.read .ofTexts description
    layout.forText
    layout.fits
    .ok (layout.apply value)

end Command

end TickBound
