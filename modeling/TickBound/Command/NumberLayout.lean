import TickBound.Command.Layout
import TickBound.Number.Dyadic
import TickBound.Number.Real

/-!
# Layout of a number in a field

A number is written whole, in one of four bases or as the character that it stands for, or as a real
number. Its parts are a sign, the mark of its base, its digits, and what follows the digits. Digits can
be parted into groups, and zeros that fill the field are digits like others.
-/

namespace TickBound

namespace Command

/-- Numbers stand on the right, and are written in decimal. The name of their kind is given. -/
def Habit.ofNumbers (kind : String) : Habit := ⟨kind, 'd', '>'⟩

/-- A number as it is to be written, from left to right. -/
structure Numeral where
  sign : List Char
  /-- The mark of the base. -/
  mark : List Char
  digits : List Char
  /-- The point and what follows it, an exponent, or a character in place of digits. -/
  rest : List Char

/-! ## Groups of digits -/

/-- Digits with a separator wherever the number of digits to the right is a multiple of `size`. -/
def grouped (size : Nat) (separator : Char) : List Char → List Char
  | [] => []
  | [d] => [d]
  | d :: rest =>
      if rest.length % size = 0 then d :: separator :: grouped size separator rest
      else d :: grouped size separator rest

/-- The least number of digits that, with separators between groups, are at least `width` characters. -/
def digitsFilling (size width : Nat) : Nat :=
  width - (width - 1) / (size + 1)

/-- How many digits a group has: four where the base is a power of two. -/
def groupSize (code : Char) : Nat :=
  if ['b', 'o', 'x', 'X'].contains code then 4 else 3

/-- Digits filled up with zeros to a width and parted as a layout says. -/
def Layout.spread (layout : Layout) (width : Nat) (digits : List Char) : List Char :=
  if digits.isEmpty then []
  else match layout.separator with
    | none => Number.padZeros width digits
    | some separator =>
        let size := groupSize layout.code
        grouped size separator (Number.padZeros (digitsFilling size width) digits)

/-- Sets a numeral into its field. -/
def Layout.applyTo (layout : Layout) (numeral : Numeral) : List Char :=
  let width := layout.width.getD 0
  let others := numeral.sign.length + numeral.mark.length + numeral.rest.length
  let zeros := if layout.fill = '0' && layout.align = '=' then width - others else 0
  let digits := layout.spread zeros numeral.digits
  let missing := width - (others + digits.length)
  let left := layout.before missing
  let inside := if layout.align = '=' then missing else 0
  List.replicate left layout.fill ++ numeral.sign ++ numeral.mark ++
    List.replicate inside layout.fill ++ digits ++ numeral.rest ++
    List.replicate (missing - left - inside) layout.fill

/-- The sign in front of a number that is not negative. -/
def Layout.plainSign (layout : Layout) : List Char :=
  match layout.sign with
  | some '+' => ['+']
  | some ' ' => [' ']
  | _ => []

/-! ## Whole numbers -/

/-- A digit below sixteen in small letters. -/
def smallDigit (d : Nat) : Char :=
  Number.smallDigitChar d

/-- The digits of a number in a base, and the mark of that base. -/
def wholeDigits (code : Char) (n : Nat) : List Char × List Char :=
  match code with
  | 'b' => (['0', 'b'], (Number.digits 2 n).map smallDigit)
  | 'o' => (['0', 'o'], (Number.digits 8 n).map smallDigit)
  | 'x' => (['0', 'x'], (Number.digits 16 n).map smallDigit)
  | 'X' => (['0', 'X'], (Number.digits 16 n).map Number.digitChar)
  | _ => ([], Number.decimalDigits n)

/-- The character that a number stands for. -/
def Layout.character (layout : Layout) (n : Nat) : Except LayoutFault Numeral :=
  if layout.sign.isSome then .error .signForCharacter
  else if layout.alternate then .error .alternateForCharacter
  else if 0x10FFFF < n then .error .notCharacter
  else .ok ⟨[], [], [], [Char.ofNat n]⟩

/-- A number as a whole one. -/
def Layout.whole (layout : Layout) (n : Nat) : Except LayoutFault Numeral :=
  if layout.precision.isSome then .error .precisionForWhole
  else if layout.coercesZero then .error .negativeZeroForWhole
  else if layout.code = 'c' then layout.character n
  else
    let (mark, digits) := wholeDigits layout.code n
    .ok ⟨layout.plainSign, if layout.alternate then mark else [], digits, []⟩

/-! ## Real numbers -/

/-- The value of a magnitude that is a whole number. -/
def wholeValue (x : Float) : Nat :=
  (Number.Dyadic.ofFinite x).nearestWhole

/-- The real number nearest to a whole one, a hundred times as much if it is a percentage. -/
def Layout.realOf (layout : Layout) (n : Nat) : Nat :=
  let x := Number.nearestReal false n 0
  wholeValue (if layout.code = '%' then x * 100 else x)

/-- A point and what follows it; without digits the point is kept on request. -/
def pointed (keepsPoint : Bool) (fraction : List Char) : List Char :=
  if fraction.isEmpty && !keepsPoint then [] else '.' :: fraction

/-- The first digits of a number, `count` of them, and the exponent of the first one. -/
def leadingDigits (count n : Nat) : List Char × Nat :=
  let digits := Number.decimalDigits n
  if digits.length ≤ count then (digits ++ List.replicate (count - digits.length) '0', digits.length - 1)
  else
    let unit := Nat.pow 10 (digits.length - count)
    let rounded := Number.decimalDigits (Number.nearestWhole n unit)
    (rounded.take count, digits.length - 1 + (rounded.length - count))

def exponentText (letter : Char) (exponent : Nat) : List Char :=
  letter :: '+' :: Number.padZeros 2 (Number.decimalDigits exponent)

/-- Digits without the zeros at their end. -/
def withoutZeros (digits : List Char) : List Char :=
  (digits.reverse.dropWhile (· = '0')).reverse

/-- A real number with an exponent. -/
def scientific (letter : Char) (keepsPoint : Bool) (places n : Nat) : List Char × List Char :=
  let (digits, exponent) := leadingDigits (places + 1) n
  (digits.take 1, pointed keepsPoint (digits.drop 1) ++ exponentText letter exponent)

/-- A real number with so many digits at most, with an exponent only if it is too large for them. -/
def general (letter : Char) (alternate : Bool) (count n : Nat) : List Char × List Char :=
  let (digits, exponent) := leadingDigits count n
  let kept := fun (fraction : List Char) => if alternate then fraction else withoutZeros fraction
  if exponent < count then
    (digits.take (exponent + 1), pointed alternate (kept (digits.drop (exponent + 1))))
  else (digits.take 1, pointed alternate (kept (digits.drop 1)) ++ exponentText letter exponent)

def largestPrecision : Nat := 0x7FFFFFFF

/-- A number as a real one, with six places unless the layout says otherwise. -/
def Layout.realNumeral (layout : Layout) (n : Nat) : Except LayoutFault Numeral :=
  let places := layout.precision.getD 6
  if largestPrecision < places then .error .precisionTooLarge
  else if widestField < places then .error .noRoom
  else
    let value := layout.realOf n
    let (digits, rest) := match layout.code with
      | 'e' => scientific 'e' layout.alternate places value
      | 'E' => scientific 'E' layout.alternate places value
      | 'g' => general 'e' layout.alternate (max places 1) value
      | 'G' => general 'E' layout.alternate (max places 1) value
      | '%' => (Number.decimalDigits value, pointed layout.alternate (List.replicate places '0') ++ ['%'])
      | _ => (Number.decimalDigits value, pointed layout.alternate (List.replicate places '0'))
    .ok ⟨layout.plainSign, [], digits, rest⟩

/-! ## Numbers in fields -/

/-- The numeral of a number, by the code of a layout. -/
def Layout.numeral (layout : Layout) (kind : String) (n : Nat) : Except LayoutFault Numeral :=
  if ['b', 'c', 'd', 'o', 'x', 'X', 'n'].contains layout.code then layout.whole n
  else if ['e', 'E', 'f', 'F', 'g', 'G', '%'].contains layout.code then layout.realNumeral n
  else .error (.unknownCode layout.code kind)

def layOutNumber (kind : String) (description : List Char) (n : Nat) : Except LayoutFault (List Char) := do
  let layout ← Layout.read (.ofNumbers kind) description
  let numeral ← layout.numeral kind n
  layout.fits
  .ok (layout.applyTo numeral)

end Command

end TickBound
