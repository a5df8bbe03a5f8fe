import TickBound.Image.Symbols
import TickBound.Text.Lower

/-!
# Markers of an image

The measured region of an image lies between two breakpoint instructions in one function. They are
counted in the disassembly of that function, whose instruction lines have the address with a colon, the
raw bytes and the mnemonic between tabs.
-/

namespace TickBound

namespace Disassembly

/-- The mnemonic of a marker. -/
def markerMnemonic : List Char := ['b', 'k', 'p', 't']

/-- The field is an address: it ends in a colon. -/
def isAddress (field : List Char) : Bool :=
  (Text.trim field).getLast? = some ':'

/-- The line holds a marker. -/
def isMarker (line : List Char) : Bool :=
  match Text.splitAt '\t' line with
  | address :: _ :: mnemonic :: _ =>
      isAddress address && Text.lower (Text.trim mnemonic) == markerMnemonic
  | _ => false

def countMarkers (listing : List Char) : Nat :=
  (Text.lines listing).countP isMarker

end Disassembly

namespace Image

def disassembler : String := "arm-none-eabi-objdump"

def markerCount (path symbol : String) : Act Host Nat := do
  let listing ← Host.toolOutput disassembler ["-d", "--disassemble=" ++ symbol, path]
  pure (Disassembly.countMarkers listing.toList)

/-- What verification asks the tools for: the address of the symbol and the number of markers. -/
def inspect (path symbol : String) : Act Host (Nat × Nat) := do
  match ← symbolAddress path symbol with
  | none => .fail (.markers (.symbolMissing path symbol))
  | some address => do
      let count ← markerCount path symbol
      pure (address, count)

/-- Makes sure that an image has the symbol and the markers of one region in it. -/
def checkMarkers (path symbol : String) : Act Host Unit := do
  let (address, count) ←
    (inspect path symbol).mapFault (Host.classify fun cause => .markers (.uninspectable path cause))
  if count ≠ markersPerRegion then .fail (.markers (.wrongCount path symbol count))
  else
    .note .debug .markers
      s!"{path}: {symbol} at 0x{Number.hexPadded 8 address} carries both markers"

end Image

end TickBound
