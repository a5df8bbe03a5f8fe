import TickBound.Level
import TickBound.Number.Real
import TickBound.Settings.Basic
import TickBound.Text.Lower

/-!
# Settings from variables

Every setting has a variable. The texts of the variables are trimmed and converted in the order of the
settings, and the first that does not convert is reported; after that the probe, the calibration offset
and the level are checked. A variable that is not set leaves the default.
-/

namespace TickBound

namespace Settings

/-- The variables, in the order of the settings. -/
inductive Variable where
  | probe
  | target
  | corpus
  | entrySymbol
  | calibrationOffset
  | haltTimeout
  | httpTimeout
  | flashCommand
  | flashTimeout
  | exploreCommand
  | verifyMarkers
  | logLevel
  deriving DecidableEq

/-- What the names of all variables begin with. -/
def variableMark : String := "CYCLECHECK_"

/-- The name under which a variable is set. -/
def Variable.key : Variable → String
  | probe => variableMark ++ "PROBE"
  | target => variableMark ++ "TARGET"
  | corpus => variableMark ++ "CORPUS"
  | entrySymbol => variableMark ++ "ENTRY_SYMBOL"
  | calibrationOffset => variableMark ++ "CALIBRATION_OFFSET"
  | haltTimeout => variableMark ++ "HALT_TIMEOUT"
  | httpTimeout => variableMark ++ "HTTP_TIMEOUT"
  | flashCommand => variableMark ++ "FLASH_COMMAND"
  | flashTimeout => variableMark ++ "FLASH_TIMEOUT"
  | exploreCommand => variableMark ++ "EXPLORE_COMMAND"
  | verifyMarkers => variableMark ++ "VERIFY_MARKERS"
  | logLevel => variableMark ++ "LOG_LEVEL"

inductive ReadFault where
  | notBoolean (setting : Variable) (text : String)
  | notInteger (setting : Variable) (text : String)
  | notNumber (setting : Variable) (text : String)
  | notPositive (setting : Variable) (text : String)
  | probeMissing
  | offsetNegative
  | levelUnknown
  deriving DecidableEq

def ReadFault.message : ReadFault → String
  | notBoolean v text => s!"{v.key}: expected a boolean, got {Text.quoted text}"
  | notInteger v text => s!"{v.key}: expected an integer, got {Text.quoted text}"
  | notNumber v text => s!"{v.key}: expected a number, got {Text.quoted text}"
  | notPositive v text => s!"{v.key}: must be positive, got {Text.quoted text}"
  | probeMissing => s!"{Variable.probe.key} must name the airfrog host (e.g. 192.168.4.1)"
  | offsetNegative => s!"{Variable.calibrationOffset.key}: must not be negative"
  | levelUnknown =>
      let names := ", ".intercalate (Level.all.map Level.name)
      s!"{Variable.logLevel.key}: expected one of {names}"

/-- How the trimmed text of a variable is converted. -/
abbrev Conversion (α : Type) := Variable → String → Except ReadFault α

def asText : Conversion String := fun _ text => .ok text

def trueWords : List String := ["1", "true", "yes", "on"]

def falseWords : List String := ["0", "false", "no", "off", ""]

/-- A truth value by word, in any letter case; a blank text is false. -/
def asBoolean : Conversion Bool := fun v text =>
  let word := String.ofList (Text.lower text.toList)
  if trueWords.contains word then .ok true
  else if falseWords.contains word then .ok false
  else .error (.notBoolean v text)

def asInteger : Conversion Int := fun v text =>
  match Number.integer? text.toList with
  | some n => .ok n
  | none => .error (.notInteger v text)

/-- A duration: a number that is not zero or less. -/
def asDuration : Conversion Float := fun v text =>
  match Number.real? text.toList with
  | some x => if x ≤ 0 then .error (.notPositive v text) else .ok x
  | none => .error (.notNumber v text)

abbrev Variables := String → Option String

/-- The value of one variable, or the default if it is not set. -/
def value {α : Type} (vars : Variables) (v : Variable) (conversion : Conversion α) (default : α) :
    Except ReadFault α :=
  match vars v.key with
  | some text => conversion v (Text.trimmed text)
  | none => .ok default

/-- The settings whose values are not given; the probe has no default. -/
def defaults : Settings := { probe := "" }

def convert (vars : Variables) : Except ReadFault Settings := do
  let probe ← value vars .probe asText defaults.probe
  let target ← value vars .target asText defaults.target
  let corpus ← value vars .corpus asText defaults.corpus
  let entrySymbol ← value vars .entrySymbol asText defaults.entrySymbol
  let calibrationOffset ← value vars .calibrationOffset asInteger defaults.calibrationOffset
  let haltTimeout ← value vars .haltTimeout asDuration defaults.haltTimeout
  let httpTimeout ← value vars .httpTimeout asDuration defaults.httpTimeout
  let flashCommand ← value vars .flashCommand asText defaults.flashCommand
  let flashTimeout ← value vars .flashTimeout asDuration defaults.flashTimeout
  let exploreCommand ← value vars .exploreCommand asText defaults.exploreCommand
  let verifyMarkers ← value vars .verifyMarkers asBoolean defaults.verifyMarkers
  let logLevel ← value vars .logLevel asText defaults.logLevel
  .ok {
    probe, target, corpus, entrySymbol, calibrationOffset, haltTimeout, httpTimeout, flashCommand,
    flashTimeout, exploreCommand, verifyMarkers, logLevel }

/-- What must hold of converted settings. -/
def check (settings : Settings) : Except ReadFault Unit :=
  if settings.probe = "" then .error .probeMissing
  else if settings.calibrationOffset < 0 then .error .offsetNegative
  else if (Level.ofName? settings.logLevel).isNone then .error .levelUnknown
  else .ok ()

def read (vars : Variables) : Except ReadFault Settings := do
  let settings ← convert vars
  check settings
  .ok settings

end Settings

end TickBound
