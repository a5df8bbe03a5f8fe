/-!
# Debug registers

The registers of a core with which it is halted, resumed and reset, their bits, and the counter that
measures cycles. All of them are words of 32 bits in the target's memory.
-/

namespace TickBound

abbrev Word := BitVec 32

namespace Register

/-- Halting, and the state of the core. -/
def dhcsr : Nat := 0xE000EDF0

/-- Selects a core register for a transfer. -/
def dcrsr : Nat := 0xE000EDF4

/-- The data of a core register transfer. -/
def dcrdr : Nat := 0xE000EDF8

/-- What the core halts on by itself. -/
def demcr : Nat := 0xE000EDFC

/-- System reset. -/
def aircr : Nat := 0xE000ED0C

/-- The number of breakpoint comparators. -/
def bpCtrl : Nat := 0xE0002000

/-- The breakpoint comparator `i`. -/
def bpComp (i : Nat) : Nat := 0xE0002008 + i * 4

/-- The counter that goes down with every cycle. -/
def counter : Nat := 0xE000E018

end Register

/-- What is written to DHCSR. Without the key in the upper half a write has no effect, and the core
stays under debug control. -/
inductive Control where
  | halt
  | resume
  deriving DecidableEq

/-- The bits of a DHCSR write below the key. -/
def Control.bits : Control → Word
  | halt => 0x3#32
  | resume => 0x1#32

def Control.key : Word := 0xA05F0000#32

def Control.word (control : Control) : Word :=
  key ||| control.bits

/-- Bit 17 of DHCSR: the core is halted. -/
def isHaltedWord (w : Word) : Bool :=
  w.getLsbD 17

/-- Bit 16 of DHCSR: the core register transfer is complete. -/
def isReadyWord (w : Word) : Bool :=
  w.getLsbD 16

/-- Bit 0 of DEMCR: the core halts when it comes out of a reset. -/
def haltsOnReset (w : Word) : Bool :=
  w.getLsbD 0

/-- The word without its bit 0. -/
def withoutHaltOnReset (w : Word) : Word :=
  w &&& ~~~1#32

/-- What is written to AIRCR to reset the system: the key and the request. -/
def systemReset : Word := 0x05FA0004#32

/-- Bits 7 to 4 of BP_CTRL: how many comparators there are. -/
def comparatorCount (w : Word) : Nat :=
  (w.extractLsb' 4 4).toNat

/-- The low 24 bits: what the counter counts. -/
def countOf (w : Word) : Nat :=
  (w.extractLsb' 0 24).toNat

/-- The number of the program counter among the core registers. -/
def programCounter : Int := 15

/-- What selects a core register to be written: bit 16 besides its number. -/
def writeSelector (register : Int) : Int :=
  if register / 0x10000 % 2 = 1 then register else register + 0x10000

/-- The address of the aligned word that holds the instruction at `pc`. -/
def instructionWord (pc : Word) : Word :=
  pc &&& ~~~3#32

/-- The half of the aligned word `w` that holds the instruction at `pc`. -/
def instructionAt (pc w : Word) : BitVec 16 :=
  if pc.getLsbD 1 then w.extractLsb' 16 16 else w.extractLsb' 0 16

/-- The instruction is a breakpoint: its upper byte is 0xBE. -/
def isBreakpoint (instruction : BitVec 16) : Bool :=
  instruction.extractLsb' 8 8 == 0xBE#8

end TickBound
