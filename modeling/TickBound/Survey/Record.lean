import TickBound.Engine.Explore
import TickBound.Image.Flash
import TickBound.Image.Markers
import TickBound.Probe.Sample

/-!
# Records

A record holds both numbers for one image: the cycles measured on the target and the bound found by the
engine. Nothing is measured unless the image has the entry symbol, as without it there are no markers to
halt on.
-/

namespace TickBound

structure Record where
  name : String
  measured : Int
  bound : Int
  deriving DecidableEq

namespace Record

def text (record : Record) : String :=
  s!"{record.name}\t{Number.decimal record.measured}\t{Number.decimal record.bound}"

/-- The heading of the rows. -/
def heading : String := "name\t\thw\tsymex"

end Record

namespace Bench

/-- Measures on a core that is borrowed for that time. -/
def measureOn (settings : Settings) (core : Core) : Act Connection Int :=
  Session.borrowing core.index
    (Sample.measure core settings.haltTimeout settings.calibrationOffset)

/-- Writes an image to the target and measures it on the first core. -/
def measureImage (settings : Settings) (path : String) : Act Bench Int := do
  Image.deploy settings path
  onConnection (measureOn settings {})

/-- The checks before an image is measured. -/
def preflight (settings : Settings) (path : String) : Act Host Unit := do
  if settings.verifyMarkers then Image.checkMarkers path settings.entrySymbol
  let _ ← Engine.entryAddress path settings.entrySymbol

/-- Takes both numbers for one image. A number too long to be shown cannot be reported. -/
def record (settings : Settings) (path : String) : Act Bench Record := do
  onHost (preflight settings path)
  let measured ← measureImage settings path
  let bound ← onHost (Engine.bound settings {} path settings.entrySymbol)
  let record : Record := ⟨Path.name path, measured, bound⟩
  if !Number.fitsDecimal measured then .fail (.outside .decimalTooLong)
  .note .info .survey
    s!"{record.name}: hw {Number.decimal record.measured} symex {Number.decimal record.bound}"
  pure record

end Bench

end TickBound
