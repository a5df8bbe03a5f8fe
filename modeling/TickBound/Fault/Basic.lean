import TickBound.Bench.FileTree
import TickBound.Bench.Program
import TickBound.Fault.Kind
import TickBound.Json.Flaw
import TickBound.Settings.Reader

/-!
# What can go wrong

A fault is the cause of a failure, with what its message has to name. Most causes belong to a stage of
the measurement; those from outside of it, such as a transport that breaks down, belong to no kind.
-/

namespace TickBound

inductive AttachFault where
  | unreachable (url reason : String)
  | resetRefused (text : String)
  | notConnected (url : String)
  | otherTarget (expected reported : String)

inductive FlashFault where
  | unreadable (path : String) (cause : FileFault)
  | notAnImage (path : String)
  | toolMissing (program : String)
  | timedOut (path : String) (limit : Float)
  | failed (path : String) (code : Int) (tail : String)

inductive MemoryFault where
  | readFailed (address : Int) (reason : String)
  | readUnusable (address : Int) (text : String)
  | writeFailed (address : Int) (reason : String)
  /-- A core register transfer was never reported complete. -/
  | transferStuck

inductive EngineFault where
  | symbolsUnreadable (path : String) (cause : ProgramFault)
  | entryMissing (entry path : String)
  | engineMissing (program : String)
  | failed (path : String) (code : Int) (errors : String)
  | badLine (number : Nat) (line : String)
  | notInteger (number : Nat) (line : String)
  | negative (number : Nat) (bound : Int)
  | noPaths

inductive MarkerFault where
  | symbolMissing (image symbol : String)
  | uninspectable (image : String) (cause : ProgramFault)
  | wrongCount (image symbol : String) (count : Nat)

/-- What comes from outside of the measurement. -/
inductive OutsideFault where
  /-- The transport of requests broke down. -/
  | transport (reason : String)
  | template (fault : Command.TemplateFault)
  | emptyCommand
  | program (fault : ProgramFault)
  /-- The status of the target is no data value. -/
  | statusText (refusal : Json.Refusal)
  /-- The status of the target is no object. -/
  | statusShape
  | file (fault : FileFault)
  | nullInPath
  /-- A number has too many digits to be shown. -/
  | decimalTooLong
  | unknownOption (name : String)
  | unknownHandle (name : String)
  | noSurvey

inductive Fault where
  | settings (fault : Settings.ReadFault)
  | corpus (path : String) (cause : FileFault)
  | attach (fault : AttachFault)
  | busy (index : Int)
  | flash (fault : FlashFault)
  | haltTimeout (index : Int) (timeout : Float)
  | memory (fault : MemoryFault)
  /-- The counter went down by less than the markers cost. -/
  | calibration (start stop offset : Int)
  | engine (fault : EngineFault)
  | markers (fault : MarkerFault)
  | outside (fault : OutsideFault)

/-- The number of markers around a measured region. -/
def markersPerRegion : Nat := 2

def AttachFault.message : AttachFault → String
  | unreachable url reason => s!"Cannot reach probe at {url}: {reason}"
  | resetRefused text => s!"Target reset failed: {text}"
  | notConnected url => s!"Probe at {url} reports no connected target"
  | otherTarget expected reported => s!"Expected a {expected} target, probe reports {reported}"

def FlashFault.message : FlashFault → String
  | unreadable path cause => s!"Cannot read image {path}: {cause.message}"
  | notAnImage path => s!"{path} is not an ELF image"
  | toolMissing program => s!"Flash tool not found: {program}"
  | timedOut path limit => s!"Flashing {path} timed out after {Number.wholeText limit}s"
  | failed path code tail => s!"Flashing {path} failed (exit {Number.decimal code}):\n{tail}"

def MemoryFault.message : MemoryFault → String
  | readFailed address reason => s!"Read of 0x{Number.hexPadded 8 address} failed: {reason}"
  | readUnusable address text =>
      s!"Read of 0x{Number.hexPadded 8 address} returned {Text.quoted text}"
  | writeFailed address reason => s!"Write of 0x{Number.hexPadded 8 address} failed: {reason}"
  | transferStuck => "DCRSR transfer never completed (S_REGRDY stuck low)"

def EngineFault.message : EngineFault → String
  | symbolsUnreadable path cause => s!"Cannot read symbols of {path}: {cause.message}"
  | entryMissing entry path => s!"Entry symbol {Text.quoted entry} not found in {path}"
  | engineMissing program => s!"Symbolic execution engine not found: {program}"
  | failed path code errors => s!"Engine failed on {path} (exit {Number.decimal code}): {errors}"
  | badLine number line =>
      s!"Bad engine output on line {Number.decimal number}: {Text.quoted line}"
  | notInteger number line =>
      s!"Non-integer cycle bound on line {Number.decimal number}: {Text.quoted line}"
  | negative number bound =>
      s!"Negative cycle bound on line {Number.decimal number}: {Number.decimal bound}"
  | noPaths => "Engine explored no paths"

def MarkerFault.message : MarkerFault → String
  | symbolMissing image symbol => s!"{image}: no symbol named {Text.quoted symbol}"
  | uninspectable image cause => s!"{image}: cannot inspect image: {cause.message}"
  | wrongCount image symbol count =>
      s!"{image}: {symbol} has {Number.decimal count} bkpt markers, " ++
        s!"expected {Number.decimal markersPerRegion}"

def OutsideFault.message : OutsideFault → String
  | transport reason => reason
  | template fault => fault.message
  | emptyCommand => "list index out of range"
  | program fault => fault.message
  | statusText refusal => refusal.message
  | statusShape => ""
  | file fault => fault.message
  | nullInPath => "embedded null byte"
  | decimalTooLong =>
      s!"Exceeds the limit ({Number.decimal Number.decimalLimit} digits) for integer string " ++
        "conversion; use sys.set_int_max_str_digits() to increase the limit"
  | unknownOption _ => ""
  | unknownHandle name => Text.quoted name
  | noSurvey => ""

namespace Fault

/-- A fault whose message shows a number. If the number is too long to be shown, that is what goes wrong
in its place. -/
def showing (n : Int) (fault : Fault) : Fault :=
  if Number.fitsDecimal n then fault else .outside .decimalTooLong

theorem showing_of_fits {n : Int} (fits : Number.fitsDecimal n = true) (fault : Fault) :
    showing n fault = fault :=
  if_pos fits

theorem showing_of_long {n : Int} (long : Number.fitsDecimal n = false) (fault : Fault) :
    showing n fault = .outside .decimalTooLong := by
  rw [showing, long]
  rfl

/-- The kind of failure, unless the cause lies outside of the measurement. -/
def kind? : Fault → Option Kind
  | settings _ => some .settings
  | corpus _ _ => some .settings
  | attach _ => some .attach
  | busy _ => some .busy
  | flash _ => some .flash
  | haltTimeout _ _ => some .haltTimeout
  | memory (.writeFailed _ _) => some .memoryWrite
  | memory _ => some .memory
  | calibration _ _ _ => some .calibration
  | engine _ => some .symbolic
  | markers _ => some .markers
  | outside _ => none

def message : Fault → String
  | settings fault => fault.message
  | corpus path cause => s!"Cannot read corpus directory {path}: {cause.message}"
  | attach fault => fault.message
  | busy index => s!"Core {Number.decimal index} is already in use"
  | flash fault => fault.message
  | haltTimeout index timeout =>
      s!"Core {Number.decimal index} did not halt within {Number.wholeText (timeout * 1000)} ms"
  | memory fault => fault.message
  | calibration start stop offset =>
      s!"Negative cycle count: start 0x{Number.hexPadded 6 start} end 0x{Number.hexPadded 6 stop} " ++
        s!"offset {Number.decimal offset}"
  | engine fault => fault.message
  | markers fault => fault.message
  | outside fault => fault.message

def isA (fault : Fault) (kind : Kind) : Bool :=
  match fault.kind? with
  | some own => own.isA kind
  | none => false

end Fault

end TickBound
