/-!
# Finite floating-point values as exact numbers

A finite value is a sign and a natural number times a power of two. What is shown of a value is
computed from these two exactly.
-/

namespace TickBound

namespace Number

/-- The number `mantissa * 2 ^ power`. -/
structure Dyadic where
  mantissa : Nat
  power : Int

/-- The sign bit is set. -/
def isNegative (x : Float) : Bool :=
  x.toBits >>> 63 == 1

def exponentField (x : Float) : Nat :=
  ((x.toBits >>> 52) &&& 0x7FF).toNat

def fractionField (x : Float) : Nat :=
  (x.toBits &&& 0xFFFFFFFFFFFFF).toNat

/-- The magnitude of a finite value. -/
def Dyadic.ofFinite (x : Float) : Dyadic :=
  if exponentField x = 0 then ⟨fractionField x, -1074⟩
  else ⟨0x10000000000000 + fractionField x, (exponentField x : Int) - 1075⟩

/-- The next value below is half as far away as the next one above. -/
def hasNarrowGap (x : Float) : Bool :=
  fractionField x == 0 && 1 < exponentField x

/-- The whole number nearest to `num / den`; of two equally near ones the even one. -/
def nearestWhole (num den : Nat) : Nat :=
  let below := num / den
  match compare (2 * (num % den)) den with
  | .lt => below
  | .gt => below + 1
  | .eq => if below % 2 = 0 then below else below + 1

/-- The whole number nearest to a magnitude. -/
def Dyadic.nearestWhole (v : Dyadic) : Nat :=
  Number.nearestWhole (v.mantissa * Nat.pow 2 v.power.toNat) (Nat.pow 2 (-v.power).toNat)

end Number

end TickBound
