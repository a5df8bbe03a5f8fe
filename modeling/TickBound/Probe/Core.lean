import TickBound.Probe.Session

/-!
# Control of a core

A core is halted, resumed, stepped over a breakpoint and reset through its debug registers. Every wait
is bounded: for a halt by a time, for a core register transfer by a number of polls.
-/

namespace TickBound

structure Core where
  index : Int := 0

namespace Core

open Session

/-! ## Halting -/

def pollInterval : Float := 0.005

def isHalted : Act Connection Bool := do
  pure (isHaltedWord (← readWord Register.dhcsr))

def control (order : Control) : Act Connection Unit :=
  writeWord Register.dhcsr order.word.toNat

/-- Polls until the core is halted or the deadline has passed. The budget is the number of replies that
are left; without a reply the poll itself fails. -/
def pollHalt (late : Fault) (deadline : Float) : Nat → Act Connection Unit
  | 0 => do
      if ← isHalted then pure () else .fail late
  | budget + 1 => do
      if ← isHalted then pure ()
      else if deadline ≤ (← Connection.onLink Link.now) then .fail late
      else
        Connection.onLink (Link.sleep pollInterval)
        pollHalt late deadline budget

def waitHalted (core : Core) (timeout : Float) : Act Connection Unit := do
  let deadline := (← Connection.onLink Link.now) + timeout
  let budget ← .reads fun c => c.link.answers.length
  pollHalt (.showing core.index (.haltTimeout core.index timeout)) deadline budget

def halt (core : Core) (timeout : Float) : Act Connection Unit := do
  control .halt
  core.waitHalted timeout

/-! ## Core registers -/

/-- How often a core register transfer is polled. -/
def mostPolls : Nat := 10

/-- Polls until a core register transfer is complete. -/
def waitReady : Nat → Act Connection Unit
  | 0 => .fail (.memory .transferStuck)
  | polls + 1 => do
      if isReadyWord (← readWord Register.dhcsr) then pure () else waitReady polls

def readRegister (register : Int) : Act Connection Word := do
  writeWord Register.dcrsr register
  waitReady mostPolls
  readWord Register.dcrdr

def writeRegister (register value : Int) : Act Connection Unit := do
  writeWord Register.dcrdr (BitVec.ofInt 32 value).toNat
  writeWord Register.dcrsr (writeSelector register)
  waitReady mostPolls

/-! ## Running -/

/-- The instruction at `pc` is a breakpoint. -/
def isAtBreakpoint (pc : Word) : Act Connection Bool := do
  let w ← readWord (instructionWord pc).toNat
  pure (isBreakpoint (instructionAt pc w))

/-- Resumes the core, behind the breakpoint if it stands on one. -/
def resume (core : Core) : Act Connection Unit := do
  let pc ← readRegister programCounter
  if ← isAtBreakpoint pc then
    .note .debug .probe
      s!"Core {Number.decimal core.index} halted on bkpt at 0x{Number.hexPadded 8 pc.toNat}, stepping over"
    writeRegister programCounter (pc.toNat + 2)
  control .resume

/-- Resets the system and leaves the core running. -/
def reset : Act Connection Unit := do
  let demcr ← readWord Register.demcr
  if haltsOnReset demcr then
    writeWord Register.demcr (withoutHaltOnReset demcr).toNat
  control .resume
  writeWord Register.aircr systemReset.toNat

/-- Clears the comparators from `i` on, `n` of them. -/
def clearFrom (i : Nat) : Nat → Act Connection Unit
  | 0 => pure ()
  | n + 1 => do
      writeWord (Register.bpComp i) 0
      clearFrom (i + 1) n

def clearBreakpoints : Act Connection Unit := do
  let count := comparatorCount (← readWord Register.bpCtrl)
  clearFrom 0 count
  .note .debug .probe s!"Cleared {Number.decimal count} breakpoint comparators"

def readCounter : Act Connection Nat := do
  pure (countOf (← readWord Register.counter))

end Core

end TickBound
