import TickBound.Bench.Basic
import TickBound.Settings.Basic
import TickBound.Text.Blank
import TickBound.Text.Line

/-!
# Writing an image to the target

Only an image file is written. An external tool does it, and as that tool takes over the connection to
the target, the session sets it up again afterwards.
-/

namespace TickBound

namespace Image

/-- The four bytes that an image begins with. -/
def magic : List UInt8 := [0x7F, 0x45, 0x4C, 0x46]

/-- Whether a file of the host is an image that can be written. -/
def check (files : FileTree) (path : String) : Except Fault Unit :=
  let place := Path.normal path
  if place.toList.contains '\x00' then .error (.outside .nullInPath)
  else
    match files.readFile place with
    | .error error => .error (.flash (.unreadable place ⟨error, place⟩))
    | .ok bytes =>
        if bytes.take magic.length = magic then .ok () else .error (.flash (.notAnImage place))

def checkFile (path : String) : Act Host Unit := do
  let files ← .reads Host.files
  .ofExcept (check files path)

/-- How many lines of the tool's output a fault keeps. -/
def keptLines : Nat := 20

def tail (output : String) : String :=
  String.ofList (Text.joinLines (Text.lastOnes keptLines (Text.lines (Text.trim output.toList))))

/-- What a failed start of the tool means. -/
def flashCause (path : String) (limit : Float) : Fault → Fault
  | .outside (.program (.notFound program)) => .flash (.toolMissing program)
  | .outside (.program (.timedOut _ _)) => .flash (.timedOut path limit)
  | fault => fault

def write (settings : Settings) (path : String) : Act Host Unit := do
  checkFile path
  let arguments ← .ofExcept
    ((settings.flashArguments path).mapError fun fault => .outside (.template fault))
  .note .info .flashing s!"Flashing {Path.name path}"
  .note .debug .flashing ("Running " ++ " ".intercalate arguments)
  let finished ←
    (Host.run arguments none (some settings.flashTimeout)).mapFault (flashCause path settings.flashTimeout)
  if finished.code ≠ 0 then .fail (.flash (.failed path finished.code (tail finished.output)))
  else pure ()

/-- Writes an image to the target and sets up the connection again. -/
def deploy (settings : Settings) (path : String) : Act Bench Unit := do
  Bench.onHost (write settings path)
  let _ ← Bench.onConnection Session.reconnect

end Image

end TickBound
