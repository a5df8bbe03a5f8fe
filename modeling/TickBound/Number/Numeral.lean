/-!
# Writing integers

Digits in a base, most significant first, and the two forms in which integers are shown: decimal, and
hexadecimal padded with zeros to a width that counts the sign.
-/

namespace TickBound

namespace Number

/-- The digits of `n` in front of `low`, at most `fuel` of them. -/
def digitsOnto (base : Nat) : Nat → Nat → List Nat → List Nat
  | 0, _, low => low
  | fuel + 1, n, low =>
      if n < base then n :: low else digitsOnto base fuel (n / base) (n % base :: low)

/-- The digits of `n`, most significant first; zero has the one digit 0. -/
def digits (base n : Nat) : List Nat :=
  digitsOnto base (n + 1) n []

/-- Digits above nine are the capital letters from A on. -/
def digitChar (d : Nat) : Char :=
  if d < 10 then Char.ofNat (0x30 + d) else Char.ofNat (0x37 + d)

/-- Digits above nine are the small letters from a on. -/
def smallDigitChar (d : Nat) : Char :=
  if d < 10 then Char.ofNat (0x30 + d) else Char.ofNat (0x57 + d)

def sign (n : Int) : List Char :=
  if n < 0 then ['-'] else []

/-- Zeros in front of `cs` up to `width` characters. -/
def padZeros (width : Nat) (cs : List Char) : List Char :=
  List.replicate (width - cs.length) '0' ++ cs

def decimalDigits (n : Nat) : List Char :=
  (digits 10 n).map digitChar

def decimal (n : Int) : String :=
  String.ofList (sign n ++ decimalDigits n.natAbs)

/-- Capital hexadecimal digits, padded with zeros to `width` characters, a minus sign counted. -/
def hexPadded (width : Nat) (n : Int) : String :=
  String.ofList
    (sign n ++ padZeros (width - (sign n).length) ((digits 16 n.natAbs).map digitChar))

/-- Capital hexadecimal digits without padding. -/
def hex (n : Int) : String :=
  hexPadded 0 n

/-- Small hexadecimal digits of a code point, padded with zeros to `width`. -/
def codeDigits (width n : Nat) : List Char :=
  padZeros width ((digits 16 n).map smallDigitChar)

/-- The largest number of digits that a decimal text may have, read or written. -/
def decimalLimit : Nat := 4300

/-- The decimal text of `n` keeps within the limit. -/
def fitsDecimal (n : Int) : Bool :=
  n.natAbs < Nat.pow 10 decimalLimit

end Number

end TickBound
