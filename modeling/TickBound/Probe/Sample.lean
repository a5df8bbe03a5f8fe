import TickBound.Probe.Core

/-!
# Sampling the counter

A core is halted, reset and run from the first marker to the second one. The counter is read at both; it
goes down, so the elapsed cycles are what it has lost, less what the markers themselves cost. A counter
that wrapped shows as a loss below zero and is refused.
-/

namespace TickBound

inductive Stage where
  | halted
  | reset
  | armedAtStart
  | runningToEnd
  | computed
  deriving DecidableEq

def Stage.name : Stage → String
  | halted => "halted"
  | reset => "reset"
  | armedAtStart => "armed-at-start"
  | runningToEnd => "running-to-end"
  | computed => "computed"

def Stage.enter (stage : Stage) : Act Connection Unit :=
  .note .debug .sampling s!"Sampler -> {stage.name}"

/-- What the counter showed at both markers, and what the markers cost. -/
structure Sample where
  start : Int
  stop : Int
  offset : Int
  deriving DecidableEq

namespace Sample

def elapsed (sample : Sample) : Int :=
  sample.start - sample.stop - sample.offset

/-- The cycles between the markers. -/
def cycles (sample : Sample) : Except Fault Int :=
  if sample.elapsed < 0 then
    .error (.showing sample.offset (.calibration sample.start sample.stop sample.offset))
  else .ok sample.elapsed

/-- Brings the core from wherever it is to both markers in turn. -/
def take (core : Core) (timeout : Float) (offset : Int) : Act Connection Sample := do
  Stage.halted.enter
  core.halt timeout
  Core.clearBreakpoints
  Stage.reset.enter
  Core.reset
  Stage.armedAtStart.enter
  core.waitHalted timeout
  let start ← Core.readCounter
  Stage.runningToEnd.enter
  core.resume
  core.waitHalted timeout
  let stop ← Core.readCounter
  Stage.computed.enter
  .note .debug .sampling s!"start 0x{Number.hexPadded 6 start} end 0x{Number.hexPadded 6 stop}"
  pure ⟨start, stop, offset⟩

def measure (core : Core) (timeout : Float) (offset : Int) : Act Connection Int := do
  let sample ← take core timeout offset
  .ofExcept sample.cycles

end Sample

end TickBound
