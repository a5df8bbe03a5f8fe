import TickBound.Command.Template

/-!
# Settings of a run

Which probe and target to use, where the images are, what the two external commands look like and how
long to wait. A setting that is not given has the value that fits a target with one core and a
down-counter of 24 bits.
-/

namespace TickBound

structure Settings where
  probe : String
  /-- What the probe has to report as its target; blank for any target. -/
  target : String := "rp2040"
  /-- The directory of the images. -/
  corpus : String := "test_binarys"
  /-- The function that holds the measured region. -/
  entrySymbol : String := "measure"
  /-- What the two markers themselves cost, in counter ticks. -/
  calibrationOffset : Int := 6
  /-- The bound on every wait for a halt, in seconds. -/
  haltTimeout : Float := 0.5
  httpTimeout : Float := 5.0
  flashCommand : String := "probe-rs download --chip RP2040 --verify \x7bimage\x7d"
  flashTimeout : Float := 120.0
  exploreCommand : String := "symex --elf \x7bimage\x7d --function \x7bentry\x7d --json"
  /-- Check the markers of an image before it is measured. -/
  verifyMarkers : Bool := false
  logLevel : String := "INFO"
  deriving DecidableEq

namespace Settings

/-- The command that writes an image to the target. -/
def flashArguments (settings : Settings) (image : String) :
    Except Command.TemplateFault (List String) :=
  Command.expand settings.flashCommand [("image", image)]

/-- The command that explores an image from an entry symbol. -/
def exploreArguments (settings : Settings) (image entry : String) :
    Except Command.TemplateFault (List String) :=
  Command.expand settings.exploreCommand [("image", image), ("entry", entry)]

end Settings

end TickBound
