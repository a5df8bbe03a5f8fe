import TickBound.Engine.Bounds
import TickBound.Engine.Options
import TickBound.Image.Symbols
import TickBound.Settings.Basic

/-!
# Symbolic exploration

An external engine explores every feasible path from the entry symbol of an image. It has no limit on
its time: a bound that depends on unknown input can keep it busy forever.
-/

namespace TickBound

namespace Engine

def entryAddress (path entry : String) : Act Host Nat := do
  let found ← (Image.symbolAddress path entry).mapFault
    (Host.classify fun cause => .engine (.symbolsUnreadable path cause))
  match found with
  | some address => pure address
  | none => .fail (.engine (.entryMissing entry path))

/-- What a failed start of the engine means. -/
def engineCause : Fault → Fault
  | .outside (.program (.notFound program)) => .engine (.engineMissing program)
  | fault => fault

/-- Reports the bounds of the paths from number `i` on. -/
def noteBounds {σ : Type} (i : Nat) : List Nat → Act σ Unit
  | [] => pure ()
  | bound :: more => do
      .note .info .engine s!"path {Number.decimal i}: {Number.decimal bound} cycles"
      noteBounds (i + 1) more

def explore (settings : Settings) (options : EngineOptions) (path entry : String) :
    Act Host (List Nat) := do
  let address ← entryAddress path entry
  .note .debug .engine s!"Exploring {path} from {entry} at 0x{Number.hexPadded 8 address}"
  let arguments ← .ofExcept
    ((settings.exploreArguments path entry).mapError fun fault => .outside (.template fault))
  let finished ← (Host.run arguments (some options.text) none).mapFault engineCause
  if finished.code ≠ 0 then
    .fail (.engine (.failed path finished.code (Text.trimmed finished.errors)))
  else
    let bounds ← .ofExcept ((Bounds.parse finished.output).mapError .engine)
    if options.showPathResults.isTruthy then noteBounds 0 bounds
    pure bounds

/-- The most cycles that any path from the entry symbol can take. -/
def bound (settings : Settings) (options : EngineOptions) (path entry : String) : Act Host Nat := do
  let bounds ← explore settings options path entry
  .ofExcept ((Bounds.worst bounds).mapError .engine)

end Engine

end TickBound
