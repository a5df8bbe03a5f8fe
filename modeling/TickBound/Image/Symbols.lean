import TickBound.Bench.Host
import TickBound.Number.Integer
import TickBound.Text.Blank
import TickBound.Text.Line

/-!
# Symbols of an image

A symbol listing has a line for each symbol: its address, a letter for its type, and its name, with
blanks between them. A symbol that is defined nowhere has no address. Only symbols of code count, strong
or weak.
-/

namespace TickBound

structure SymbolLine where
  address : List Char
  kind : Char
  name : List Char

namespace SymbolLine

def isHexDigit (c : Char) : Bool :=
  ('0' ≤ c && c ≤ '9') || ('a' ≤ c && c ≤ 'f') || ('A' ≤ c && c ≤ 'F')

/-- The letters of code symbols: text and weak ones, global and local. -/
def isCode (kind : Char) : Bool :=
  kind = 'T' || kind = 't' || kind = 'W' || kind = 'w'

/-- The symbol that a line defines, if it is one of code. -/
def read? (line : List Char) : Option SymbolLine :=
  match Text.fields line with
  | [address, [kind], name] =>
      if address.all isHexDigit && isCode kind then some ⟨address, kind, name⟩ else none
  | _ => none

/-- The value of an address of hexadecimal digits. -/
def value (line : SymbolLine) : Nat :=
  Number.ofDigits 16 (line.address.filterMap (Number.digitIn? 16))

/-- The address of the first code symbol of that name in a listing. -/
def find? (listing symbol : List Char) : Option Nat :=
  ((((Text.lines listing).filterMap read?).find? fun line => line.name = symbol)).map value

end SymbolLine

namespace Image

def symbolTool : String := "arm-none-eabi-nm"

def symbolAddress (path symbol : String) : Act Host (Option Nat) := do
  let listing ← Host.toolOutput symbolTool [path]
  pure (SymbolLine.find? listing.toList symbol.toList)

end Image

end TickBound
