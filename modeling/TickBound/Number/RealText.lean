import TickBound.Number.Dyadic
import TickBound.Number.Numeral

/-!
# Writing floating-point values

A value is written with the fewest digits that read back to it, positionally while its leading digit
stands between the fourth place after the point and the sixteenth before it, otherwise with a signed
exponent of at least two digits. Rounded to whole numbers it is written without point and exponent.
-/

namespace TickBound

namespace Number

/-- The number `digits * 10 ^ power`. -/
structure Decimal where
  digits : Nat
  power : Int

/-- Compares `d` with `a * 2 ^ q`. -/
def Decimal.compareTo (d : Decimal) (a : Nat) (q : Int) : Ordering :=
  compare (d.digits * Nat.pow 10 d.power.toNat * Nat.pow 2 (-q).toNat)
    (a * Nat.pow 2 q.toNat * Nat.pow 10 (-d.power).toNat)

/-- The decimal lies among the numbers that round to the value `v`: between the points halfway to its
two neighbours, the ends included when the mantissa is even. -/
def readsBack (v : Dyadic) (narrow : Bool) (d : Decimal) : Bool :=
  let low := 4 * v.mantissa - (if narrow then 1 else 2)
  let high := 4 * v.mantissa + 2
  let closed := v.mantissa % 2 == 0
  let fromLow := d.compareTo low (v.power - 2)
  let fromHigh := d.compareTo high (v.power - 2)
  (fromLow == .gt || (closed && fromLow == .eq)) && (fromHigh == .lt || (closed && fromHigh == .eq))

/-- The number of places before the point that `v` fills: the least `k` with `v < 10 ^ k`. -/
def places (v : Dyadic) : Int :=
  let estimate := ((v.mantissa.log2 : Int) + v.power) * 30103 / 100000
  let candidates := (List.range 4).map fun (i : Nat) => estimate + (i : Int)
  match candidates.find? fun k => (⟨1, k⟩ : Decimal).compareTo v.mantissa v.power == .gt with
  | some k => k
  | none => estimate + 4

/-- The best decimal for `v` whose last digit counts `10 ^ power`, if one of the two around `v` reads
back: the nearer one, and of two equally near ones the even one. -/
def onGrid? (v : Dyadic) (narrow : Bool) (power : Int) : Option Decimal :=
  let num := v.mantissa * Nat.pow 2 v.power.toNat * Nat.pow 10 (-power).toNat
  let den := Nat.pow 2 (-v.power).toNat * Nat.pow 10 power.toNat
  let below := num / den
  let lowerOne : Decimal := ⟨below, power⟩
  let upperOne : Decimal := ⟨below + 1, power⟩
  match readsBack v narrow lowerOne, readsBack v narrow upperOne with
  | true, true => some ⟨nearestWhole num den, power⟩
  | true, false => some lowerOne
  | false, true => some upperOne
  | false, false => none

/-- Moves trailing zeros of the digits into the power. -/
def Decimal.strip : Nat → Decimal → Decimal
  | 0, d => d
  | fuel + 1, d =>
      if d.digits % 10 = 0 && d.digits ≠ 0 then strip fuel ⟨d.digits / 10, d.power + 1⟩ else d

/-- The decimal of fewest digits that reads back to the magnitude of `x`. -/
def shortest (x : Float) : Decimal :=
  let v := Dyadic.ofFinite x
  if v.mantissa = 0 then ⟨0, 0⟩
  else
    let k := places v
    let counts := (List.range 17).map fun (i : Nat) => (i : Int) + 1
    match counts.findSome? fun n => onGrid? v (hasNarrowGap x) (k - n) with
    | some d => d.strip 20
    | none =>
        ⟨v.mantissa * Nat.pow 2 v.power.toNat * Nat.pow 5 (-v.power).toNat,
          -((-v.power).toNat : Int)⟩

/-- A signed exponent of at least two digits. -/
def exponentText (e : Int) : List Char :=
  'e' :: (if e < 0 then '-' else '+') :: padZeros 2 (decimalDigits e.natAbs)

/-- Digits with a point or an exponent. -/
def Decimal.layout (d : Decimal) : List Char :=
  let ds := decimalDigits d.digits
  let point := d.power + (ds.length : Int)
  if -4 < point ∧ point ≤ 16 then
    if point ≤ 0 then '0' :: '.' :: (List.replicate (-point).toNat '0' ++ ds)
    else if (ds.length : Int) ≤ point then
      ds ++ List.replicate (point - (ds.length : Int)).toNat '0' ++ ['.', '0']
    else ds.take point.toNat ++ '.' :: ds.drop point.toNat
  else
    match ds with
    | [only] => only :: exponentText (point - 1)
    | lead :: more => lead :: '.' :: (more ++ exponentText (point - 1))
    | [] => exponentText (point - 1)

/-- What the values that are not numbers in the narrow sense are called. -/
structure SpecialNames where
  notANumber : String
  infinity : String

def minus (x : Float) : String :=
  if isNegative x then "-" else ""

/-- The shortest text that reads back to `x`. -/
def realText (names : SpecialNames) (x : Float) : String :=
  if x.isNaN then names.notANumber
  else if x.isInf then minus x ++ names.infinity
  else minus x ++ String.ofList (shortest x).layout

/-- The names used outside of data formats. -/
def plainNames : SpecialNames := ⟨"nan", "inf"⟩

/-- The whole number nearest to `x`, ties to even; the sign is kept even at zero. -/
def wholeText (x : Float) : String :=
  if x.isNaN then plainNames.notANumber
  else if x.isInf then minus x ++ plainNames.infinity
  else minus x ++ String.ofList (decimalDigits (Dyadic.ofFinite x).nearestWhole)

end Number

end TickBound
