import TickBound.Number.Numeral
import TickBound.Text.Blank
import TickBound.Text.DecimalDigit

/-!
# Reading integers

An integer may stand between blanks, may have a sign, digits of any script and single underscores
between digits. With a base of its own choice it may begin with `0x`, `0o` or `0b`; without such a
beginning it is decimal, and then a leading zero is refused unless all digits are zero.
-/

namespace TickBound

namespace Number

/-- The blanks that may surround a number: all but the four information separators. -/
def isNumberBlank (c : Char) : Bool :=
  Text.isBlank c && !(0x1C ≤ c.toNat && c.toNat ≤ 0x1F)

/-- A decimal digit of any script as the digit of the basic script; other characters stay. -/
def plainDigit (c : Char) : Char :=
  match Text.decimalDigit? c with
  | some d => digitChar d
  | none => c

/-- A text as the readers of numbers see it: trimmed, with plain digits. -/
def numberText (cs : List Char) : List Char :=
  (Text.trimBy isNumberBlank cs).map plainDigit

/-- The value of a digit or Latin letter, if it is below the base. -/
def digitIn? (base : Nat) (c : Char) : Option Nat :=
  let n := c.toNat
  let value : Option Nat :=
    if 0x30 ≤ n && n ≤ 0x39 then some (n - 0x30)
    else if 0x41 ≤ n && n ≤ 0x5A then some (n - 0x37)
    else if 0x61 ≤ n && n ≤ 0x7A then some (n - 0x57)
    else none
  value.filter (· < base)

/-- The digits of a text in a base; one underscore may stand between two digits. -/
def digitRun? (base : Nat) : List Char → Option (List Nat)
  | [] => none
  | [c] => (digitIn? base c).map ([·])
  | c :: '_' :: rest => do
      let d ← digitIn? base c
      let ds ← digitRun? base rest
      pure (d :: ds)
  | c :: rest => do
      let d ← digitIn? base c
      let ds ← digitRun? base rest
      pure (d :: ds)

/-- The number that digits stand for, most significant first. -/
def ofDigits (base : Nat) (ds : List Nat) : Nat :=
  ds.foldl (fun n d => n * base + d) 0

/-- Takes a sign off; `true` is a minus. -/
def takeSign : List Char → Bool × List Char
  | '-' :: rest => (true, rest)
  | '+' :: rest => (false, rest)
  | rest => (false, rest)

def signed (negative : Bool) (n : Nat) : Int :=
  if negative then -(n : Int) else n

/-- The text after a base mark, where one underscore may stand before the first digit. -/
def afterMark : List Char → List Char
  | '_' :: rest => rest
  | rest => rest

/-- The base that a mark letter after a zero stands for. -/
def markBase? (c : Char) : Option Nat :=
  if c = 'x' || c = 'X' then some 16
  else if c = 'o' || c = 'O' then some 8
  else if c = 'b' || c = 'B' then some 2
  else none

/-- Digits without a base mark: decimal, within the limit, and with a leading zero only for zero. -/
def plainDecimal? (cs : List Char) : Option Nat := do
  let ds ← digitRun? 10 cs
  let n := ofDigits 10 ds
  if decimalLimit < ds.length then none
  else if ds.head? = some 0 && n ≠ 0 then none
  else some n

/-- The natural number in a text that chooses its base. -/
def natural? : List Char → Option Nat
  | '0' :: c :: rest =>
      match markBase? c with
      | some base => (digitRun? base (afterMark rest)).map (ofDigits base)
      | none => plainDecimal? ('0' :: c :: rest)
  | cs => plainDecimal? cs

def integer? (cs : List Char) : Option Int :=
  let (negative, rest) := takeSign (numberText cs)
  (natural? rest).map (signed negative)

/-- Hexadecimal digits, with or without the mark `0x`. -/
def hexNatural? : List Char → Option Nat
  | '0' :: c :: rest =>
      if c = 'x' || c = 'X' then (digitRun? 16 (afterMark rest)).map (ofDigits 16)
      else (digitRun? 16 ('0' :: c :: rest)).map (ofDigits 16)
  | cs => (digitRun? 16 cs).map (ofDigits 16)

/-- The integer in a hexadecimal text, of any length. -/
def hexInteger? (cs : List Char) : Option Int :=
  let (negative, rest) := takeSign (numberText cs)
  (hexNatural? rest).map (signed negative)

end Number

end TickBound
