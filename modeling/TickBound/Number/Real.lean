import TickBound.Number.Dyadic
import TickBound.Number.Integer

/-!
# Reading floating-point values

A decimal number with an optional point and exponent, or infinity or not-a-number by name. The value is
the one nearest to the decimal; numbers too large become infinite and numbers too small become zero.
-/

namespace TickBound

namespace Number

/-- The bits of infinity; those of the finite magnitudes are below them. -/
def infinityBits : Nat := 0x7FF0000000000000

/-- How often the least magnitude above zero goes into one. -/
def unitsPerOne : Nat := Nat.pow 2 1074

/-- The bits of the magnitude nearest to `num / den`, counted in multiples of `2 ^ k` of the least one:
`k` is the least for which 53 places hold their number. The first of all 53 counts in the exponent. -/
def nearestBits (num den : Nat) : Nat :=
  let least := num * unitsPerOne
  let k := (least / den).log2 - 52
  min (k * Nat.pow 2 52 + nearestWhole least (den * Nat.pow 2 k)) infinityBits

/-- The bits of the magnitude nearest to `digits * 10 ^ power`. A number far above `10 ^ 400` is infinite
and one far below `10 ^ (-400)` is zero: a bit is worth more than three tenths of a place and less than
a third. -/
def magnitudeBits (digits : Nat) (power : Int) : Nat :=
  let bits : Int := digits.log2
  if digits = 0 then 0
  else if 400 < bits * 3 / 10 + power then infinityBits
  else if bits / 3 + power < -400 then 0
  else nearestBits (digits * Nat.pow 10 power.toNat) (Nat.pow 10 (-power).toNat)

/-- The value of a magnitude with a sign. -/
def ofMagnitude (negative : Bool) (bits : Nat) : Float :=
  Float.ofBits (UInt64.ofNat (if negative then 0x8000000000000000 + bits else bits))

/-- The value nearest to `digits * 10 ^ power`, with the given sign. -/
def nearestReal (negative : Bool) (digits : Nat) (power : Int) : Float :=
  ofMagnitude negative (magnitudeBits digits power)

def isPlainDigit (c : Char) : Bool :=
  '0' ≤ c && c ≤ '9'

/-- The text without its underscores, each of which must stand between two digits; `afterDigit` tells
whether a digit stands in front. -/
def dropUnderscores? (afterDigit : Bool) : List Char → Option (List Char)
  | [] => some []
  | '_' :: rest =>
      match rest with
      | d :: _ => if afterDigit && isPlainDigit d then dropUnderscores? false rest else none
      | [] => none
  | c :: rest => (dropUnderscores? (isPlainDigit c) rest).map (c :: ·)

def plainDigits (cs : List Char) : Nat :=
  ofDigits 10 (cs.map fun c => c.toNat - 0x30)

/-- An exponent: an optional sign and at least one digit, up to the end. -/
def exponent? (cs : List Char) : Option Int :=
  let (negative, ds) := takeSign cs
  if !ds.isEmpty && ds.all isPlainDigit then some (signed negative (plainDigits ds)) else none

/-- What may follow the digits of a number: nothing, or an exponent. -/
def afterDigits? : List Char → Option Int
  | [] => some 0
  | c :: rest => if c = 'e' || c = 'E' then exponent? rest else none

/-- The digits after the point, if there is one, and what follows them. -/
def fractionPart : List Char → List Char × List Char
  | '.' :: rest => (rest.takeWhile isPlainDigit, rest.dropWhile isPlainDigit)
  | rest => ([], rest)

/-- A number without a sign, as its digits and their power of ten. -/
def unsignedReal? (cs : List Char) : Option (Nat × Int) :=
  let whole := cs.takeWhile isPlainDigit
  let (fraction, rest) := fractionPart (cs.dropWhile isPlainDigit)
  if whole.isEmpty && fraction.isEmpty then none
  else
    (afterDigits? rest).map fun e =>
      (plainDigits (whole ++ fraction), e - (fraction.length : Int))

/-- A value by name, in any letter case. -/
def namedReal? (negative : Bool) (cs : List Char) : Option Float :=
  let name := String.ofList (cs.map Char.toLower)
  if name = "inf" || name = "infinity" then
    some (if negative then Float.ofBits 0xFFF0000000000000 else Float.ofBits 0x7FF0000000000000)
  else if name = "nan" then some (Float.ofBits 0x7FF8000000000000)
  else none

def real? (text : List Char) : Option Float := do
  let cs ← dropUnderscores? false (numberText text)
  let (negative, rest) := takeSign cs
  match unsignedReal? rest with
  | some (ds, power) => some (nearestReal negative ds power)
  | none => namedReal? negative rest

end Number

end TickBound
