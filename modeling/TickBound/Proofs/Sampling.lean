import TickBound.Probe.Sample
import TickBound.Proofs.Pursuit

/-!
# The protocol of a sample

What a probe is asked for while the counter is sampled at both markers. The addresses and values are
written out here, so that this is the protocol as a probe sees it.
-/

namespace TickBound

/-! ## Words -/

theorem comparatorCount_eq (w : Word) : comparatorCount w = w.toNat / 16 % 16 := by
  simp [comparatorCount, BitVec.extractLsb'_toNat, Nat.shiftRight_eq_div_pow]

theorem countOf_eq (w : Word) : countOf w = w.toNat % 0x1000000 := by
  simp [countOf, BitVec.extractLsb'_toNat]

theorem instructionAt_toNat (pc w : Word) :
    (instructionAt pc w).toNat =
      if pc.getLsbD 1 then w.toNat / 0x10000 else w.toNat % 0x10000 := by
  have := w.isLt
  unfold instructionAt
  split
  · simp only [BitVec.extractLsb'_toNat, Nat.shiftRight_eq_div_pow]
    omega
  · simp [BitVec.extractLsb'_toNat]

theorem isBreakpoint_iff (instruction : BitVec 16) :
    isBreakpoint instruction = true ↔ instruction.toNat / 0x100 = 0xBE := by
  have := instruction.isLt
  rw [isBreakpoint, beq_iff_eq, ← BitVec.toNat_inj, BitVec.extractLsb'_toNat,
    Nat.shiftRight_eq_div_pow]
  change instruction.toNat / 2 ^ 8 % 2 ^ 8 = 0xBE ↔ _
  omega

/-! ## The protocol -/

namespace Protocol

def halting : Protocol Unit := do
  put 0xE000EDF0 0xA05F0003
  await 0xE000EDF0 17 none

def clearing : Protocol Unit := do
  let control ← get 0xE0002000
  (List.range (control.toNat / 16 % 16)).forM fun (i : Nat) => put (0xE0002008 + 4 * i) 0

def resetting : Protocol Unit := do
  let demcr ← get 0xE000EDFC
  if demcr.getLsbD 0 then
    put 0xE000EDFC (demcr &&& 0xFFFFFFFE#32).toNat
  put 0xE000EDF0 0xA05F0001
  put 0xE000ED0C 0x05FA0004

/-- The half of the word `w` that `pc` points to is a breakpoint. -/
def IsBreakpointAt (pc w : Word) : Prop :=
  (if pc.getLsbD 1 then w.toNat / 0x10000 else w.toNat % 0x10000) / 0x100 = 0xBE

instance (pc w : Word) : Decidable (IsBreakpointAt pc w) :=
  inferInstanceAs (Decidable (_ = _))

def stepping (pc : Word) : Protocol Unit := do
  put 0xE000EDF8 ((pc.toNat + 2) % 0x100000000 : Nat)
  put 0xE000EDF4 0x1000F
  await 0xE000EDF0 16 (some 9)

def resuming : Protocol Unit := do
  put 0xE000EDF4 15
  await 0xE000EDF0 16 (some 9)
  let pc ← get 0xE000EDF8
  let w ← get (pc &&& 0xFFFFFFFC#32).toNat
  if IsBreakpointAt pc w then
    stepping pc
  put 0xE000EDF0 0xA05F0001

/-- The program counter and the word at its instruction are read. -/
def locating : Protocol (Word × Word) := do
  put 0xE000EDF4 15
  await 0xE000EDF0 16 (some 9)
  let pc ← get 0xE000EDF8
  let w ← get (pc &&& 0xFFFFFFFC#32).toNat
  pure (pc, w)

def passing (pc w : Word) : Protocol Unit :=
  if IsBreakpointAt pc w then stepping pc else pure ()

/-- What is resumed is located first and, at a breakpoint, passed. -/
theorem resuming_eq : resuming = (do
    let (pc, w) ← locating
    passing pc w
    put 0xE000EDF0 0xA05F0001) := by
  have passes (pc w : Word) (next : Unit → Protocol Unit) :
      (if IsBreakpointAt pc w then stepping pc >>= next else next ()) = passing pc w >>= next := by
    unfold passing
    split
    · rfl
    · exact (pure_bind () next).symm
  simp only [resuming, locating, bind_assoc, pure_bind, ← passes]

def toFirstMarker : Protocol Unit := do
  halting
  clearing
  resetting
  await 0xE000EDF0 17 none

def toSecondMarker : Protocol Unit := do
  resuming
  await 0xE000EDF0 17 none

/-- The words of the counter at both markers. -/
def sampling : Protocol (Word × Word) := do
  toFirstMarker
  let first ← get 0xE000E018
  toSecondMarker
  let second ← get 0xE000E018
  pure (first, second)

end Protocol

/-! ## Operations of a core -/

namespace Core

open Act.Follows (silent)

theorem pollHalt_follows (late : Fault) (deadline : Float) (budget : Nat) :
    (pollHalt late deadline budget).Follows (.await 0xE000EDF0 17 none) := by
  induction budget with
  | zero =>
      rw [pollHalt, isHalted, bind_assoc]
      refine .poll (fun w set => ?_) (fun w clear fewer _ => ?_) (fun w clear hf => by cases hf)
      · have halted : isHaltedWord w = true := set
        rw [pure_bind, if_pos halted]
        exact .pure ()
      · have running : isHaltedWord w = false := clear
        rw [pure_bind, running]
        exact .of_givesUp (Act.givesUp_fail late) rfl
  | succ budget ih =>
      rw [pollHalt, isHalted, bind_assoc]
      refine .poll (fun w set => ?_) (fun w clear fewer hf => ?_) (fun w clear hf => by cases hf)
      · have halted : isHaltedWord w = true := set
        rw [pure_bind, if_pos halted]
        exact .pure ()
      · have running : isHaltedWord w = false := clear
        rw [pure_bind, running]
        obtain rfl := Option.some.inj hf
        refine silent Act.isSilent_now fun now => ?_
        split
        · exact .of_givesUp (Act.givesUp_fail late) rfl
        · exact silent (Act.isSilent_sleep pollInterval) fun _ => ih

theorem waitHalted_follows (core : Core) (timeout : Float) :
    (core.waitHalted timeout).Follows (.await 0xE000EDF0 17 none) :=
  silent Act.isSilent_now fun _ =>
    silent (Act.isSilent_reads _) fun _ => pollHalt_follows _ _ _

theorem waitReady_pursues (polls : Nat) :
    (waitReady (polls + 1)).Pursues (.await 0xE000EDF0 16 (some polls)) := by
  induction polls with
  | zero =>
      rw [waitReady]
      refine .poll (fun w set => ?_) (fun w clear fewer hf => by cases hf) (fun w clear _ => ?_)
      · have ready : isReadyWord w = true := set
        rw [if_pos ready]
        exact .pure ()
      · have busy : isReadyWord w = false := clear
        rw [busy]
        exact Act.givesUp_fail _
  | succ polls ih =>
      rw [waitReady]
      refine .poll (fun w set => ?_) (fun w clear fewer hf => ?_) (fun w clear hf => by cases hf)
      · have ready : isReadyWord w = true := set
        rw [if_pos ready]
        exact .pure ()
      · have busy : isReadyWord w = false := clear
        rw [busy]
        obtain rfl := Option.some.inj hf
        exact ih

theorem clearFrom_follows (i n : Nat) :
    (clearFrom i n).Follows
      ((List.range' i n).forM fun (j : Nat) => .put (0xE0002008 + 4 * j) 0) := by
  induction n generalizing i with
  | zero => exact .pure ()
  | succ n ih =>
      have place : ((Register.bpComp i : Nat) : Int) = 0xE0002008 + 4 * (i : Int) := by
        simp only [Register.bpComp]
        omega
      rw [List.range'_succ]
      refine .bind ?_ fun _ => ih (i + 1)
      rw [place]
      exact .writeWord _ 0

theorem halt_follows (core : Core) (timeout : Float) : (core.halt timeout).Follows .halting :=
  .bind (.writeWord _ _) fun _ => core.waitHalted_follows timeout

theorem clearBreakpoints_follows : clearBreakpoints.Follows .clearing := by
  refine .bind (.readWord _) fun control => ?_
  rw [comparatorCount_eq, List.range_eq_range']
  exact .silent_last (clearFrom_follows 0 _) (Act.isSilent_note _ _ _)

theorem reset_follows : reset.Follows .resetting := by
  refine .bind (.readWord _) fun demcr => ?_
  refine .ite Iff.rfl (fun _ => ?_) fun _ => ?_
  · exact .bind (.writeWord _ _) fun _ => .bind (.writeWord _ _) fun _ => .writeWord _ _
  · exact .bind (.writeWord _ _) fun _ => .writeWord _ _

theorem writeRegister_pursues (pc : Word) :
    (writeRegister programCounter (pc.toNat + 2)).Pursues (.stepping pc) := by
  have behind : ((BitVec.ofInt 32 (pc.toNat + 2)).toNat : Int)
      = ((pc.toNat + 2) % 0x100000000 : Nat) := by
    simp [BitVec.toNat_ofInt]
    omega
  rw [Protocol.stepping, ← behind]
  exact .bind (.writeWord _ _) fun _ => .bind (.writeWord _ _) fun _ => waitReady_pursues 9

theorem resume_pursues (core : Core) : core.resume.Pursues .resuming := by
  simp only [resume, readRegister, isAtBreakpoint, bind_assoc, pure_bind]
  refine .bind (.writeWord _ _) fun _ => .bind (waitReady_pursues 9) fun _ =>
    .bind (.readWord _) fun pc => .bind (.readWord _) fun w => ?_
  refine .ite ?_ (fun _ => ?_) fun _ => .writeWord _ _
  · rw [isBreakpoint_iff, instructionAt_toNat, Protocol.IsBreakpointAt]
  · exact .silent (Act.isSilent_note _ _ _) fun _ =>
      .bind (writeRegister_pursues pc) fun _ => .writeWord _ _

end Core

namespace Sample

open Act.Follows (silent)

def ofWords (offset : Int) (words : Word × Word) : Sample :=
  ⟨(words.1.toNat % 0x1000000 : Nat), (words.2.toNat % 0x1000000 : Nat), offset⟩

theorem isSilent_enter (stage : Stage) : Act.IsSilent stage.enter :=
  Act.isSilent_note _ _ _

theorem take_follows (core : Core) (timeout : Float) (offset : Int) :
    (take core timeout offset).Follows (do
      let words ← .sampling
      pure (ofWords offset words)) := by
  have toFirst : (do
      Stage.halted.enter
      core.halt timeout
      Core.clearBreakpoints
      Stage.reset.enter
      Core.reset
      Stage.armedAtStart.enter
      core.waitHalted timeout : Act Connection Unit).Follows .toFirstMarker :=
    silent (isSilent_enter _) fun _ => .bind (core.halt_follows timeout) fun _ =>
      .bind Core.clearBreakpoints_follows fun _ => silent (isSilent_enter _) fun _ =>
      .bind Core.reset_follows fun _ => silent (isSilent_enter _) fun _ =>
      core.waitHalted_follows timeout
  have toSecond : (do
      Stage.runningToEnd.enter
      core.resume
      core.waitHalted timeout : Act Connection Unit).Follows .toSecondMarker :=
    silent (isSilent_enter _) fun _ => .bind core.resume_pursues.toFollows fun _ =>
      core.waitHalted_follows timeout
  have whole := toFirst.bind fun _ => (Act.Follows.readWord 0xE000E018).bind fun first =>
    toSecond.bind fun _ => (Act.Follows.readWord 0xE000E018).bind fun second =>
    silent (isSilent_enter .computed) fun _ => silent (Act.isSilent_note .debug .sampling
      s!"start 0x{Number.hexPadded 6 (countOf first)} end 0x{Number.hexPadded 6 (countOf second)}")
      fun _ => .pure (⟨countOf first, countOf second, offset⟩ : Sample)
  simp only [bind_assoc] at whole
  simp only [take, Core.readCounter, Protocol.sampling, ofWords, ← countOf_eq, bind_assoc, pure_bind]
  exact whole

/-! ## Runs without waiting -/

/-- A word with the bits of a halted core and of a transfer that is complete, and of nothing else that
counts. -/
def ready : Reply := .answered 200 "\x7b\"data\": \"0x00030000\"\x7d"

theorem word?_ready : ready.word? = some 0x00030000#32 :=
  Reply.word?_answered (by decide +kernel)

/-- A connection on which everything is ready at once. The replies to the reads of the program counter
and of the counter at both markers are given. -/
def promptly (pc first second : Reply) : Connection where
  link :=
    { answers := [ready, ready, ready, ready, ready, ready, ready, first, ready, ready, pc, ready,
        ready, ready, second].map fun reply => ⟨reply, 0⟩ }
  session := { url := "http://192.168.4.1/api" }

/-- The exchanges of a sample on such a connection, with the word that is read as the program counter. -/
abbrev promptTraffic (pc first second : Reply) (p : Word) : List Exchange :=
  [⟨.write 0xE000EDF0 0xA05F0003, ready⟩, ⟨.read 0xE000EDF0, ready⟩, ⟨.read 0xE0002000, ready⟩,
    ⟨.read 0xE000EDFC, ready⟩, ⟨.write 0xE000EDF0 0xA05F0001, ready⟩,
    ⟨.write 0xE000ED0C 0x05FA0004, ready⟩, ⟨.read 0xE000EDF0, ready⟩,
    ⟨.read 0xE000E018, first⟩, ⟨.write 0xE000EDF4 15, ready⟩, ⟨.read 0xE000EDF0, ready⟩,
    ⟨.read 0xE000EDF8, pc⟩, ⟨.read (p &&& 0xFFFFFFFC#32).toNat, ready⟩,
    ⟨.write 0xE000EDF0 0xA05F0001, ready⟩, ⟨.read 0xE000EDF0, ready⟩,
    ⟨.read 0xE000E018, second⟩]

theorem run_readWord {reply : Reply} {w : Word} (h : reply.word? = some w) (took : Float)
    (more : List Answer) (clock tick : Float) (session : Session) (address : Int) :
    (Session.readWord address).run ⟨⟨⟨reply, took⟩ :: more, clock, tick⟩, session⟩ =
      ⟨.ok w, [.requested session.url (.read address) session.timeout reply],
        ⟨⟨more, clock + tick + took, tick⟩, session⟩⟩ :=
  Session.readWord_of_word (c := ⟨⟨⟨reply, took⟩ :: more, clock, tick⟩, session⟩) h address

theorem run_writeWord {reply : Reply} (h : reply.isTaken = true) (took : Float)
    (more : List Answer) (clock tick : Float) (session : Session) (address value : Int) :
    (Session.writeWord address value).run ⟨⟨⟨reply, took⟩ :: more, clock, tick⟩, session⟩ =
      ⟨.ok (), [.requested session.url (.write address value) session.timeout reply],
        ⟨⟨more, clock + tick + took, tick⟩, session⟩⟩ :=
  Session.writeWord_of_taken (c := ⟨⟨⟨reply, took⟩ :: more, clock, tick⟩, session⟩) h address value

/-- The time and the session play no part where everything is ready at once. -/
theorem take_promptly_at {pc first second : Reply} {p v w : Word} (hp : pc.word? = some p)
    (hv : first.word? = some v) (hw : second.word? = some w) (clock tick : Float)
    (session : Session) (timeout : Float) (offset : Int) :
    let start : Connection := ⟨{ (promptly pc first second).link with clock, tick }, session⟩
    ((take {} timeout offset).run start).result = .ok (ofWords offset (v, w)) ∧
      exchanges ((take {} timeout offset).run start).events = promptTraffic pc first second p := by
  have reads := run_readWord word?_ready
  have writes := run_writeWord (show ready.isTaken = true from rfl)
  have noBreakpoint : isBreakpoint (instructionAt p 0x00030000#32) = false := by
    unfold instructionAt
    split <;> decide
  simp [take, promptly, Stage.enter, Core.halt, Core.control, Core.waitHalted, Connection.onLink,
    Link.now, Core.pollHalt, Core.isHalted, isHaltedWord, Core.clearBreakpoints, comparatorCount,
    Core.clearFrom, Core.reset, haltsOnReset, Core.readCounter, Core.resume, Core.readRegister,
    Core.waitReady, Core.mostPolls, isReadyWord, Core.isAtBreakpoint, noBreakpoint, reads, writes,
    run_readWord hp, run_readWord hv, run_readWord hw, Register.dhcsr, Register.dcrsr, Register.dcrdr,
    Register.demcr, Register.aircr, Register.bpCtrl, Register.counter, programCounter, Control.word,
    Control.key, Control.bits, systemReset, instructionWord, ofWords, countOf_eq, -bind_pure_comp]

theorem take_promptly {pc first second : Reply} {p v w : Word} (hp : pc.word? = some p)
    (hv : first.word? = some v) (hw : second.word? = some w) (timeout : Float) (offset : Int) :
    ((take {} timeout offset).run (promptly pc first second)).result = .ok (ofWords offset (v, w)) ∧
      exchanges ((take {} timeout offset).run (promptly pc first second)).events =
        promptTraffic pc first second p :=
  take_promptly_at hp hv hw 0 0 { url := "http://192.168.4.1/api" } timeout offset

end Sample

end TickBound
