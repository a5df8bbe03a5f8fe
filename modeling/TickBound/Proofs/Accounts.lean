import TickBound.Proofs.Opening

/-!
# What a failure is put down to

Every operation of a measurement fails fast. Its fault is one of the measurement, unless the event at
which it stopped is one that slips through, or something was amiss before anything happened: a command
that cannot be made, a name that is none, an offset that is too long.
-/

namespace TickBound

/-- What goes wrong at the event gets no cause in the measurement: the transport breaks down, a reply to
a reset tells no status, a command of the settings is denied, or time runs out that was not limited. -/
def Event.Slips : Event → Prop
  | .requested _ .reset _ reply => ¬ reply.TellsStatus
  | .requested _ _ _ (.broken _) => True
  | .ran _ input limit .denied => input ≠ none ∨ limit ≠ none
  | .ran _ _ limit .timedOut => limit = none
  | _ => False

/-- The fault is one of the measurement, or something was amiss, or the last event slips through. -/
def Accounts (amiss : Prop) : Blame := fun last fault =>
  fault.isA .pipeline = true ∨ amiss ∨ ∃ event, last = some event ∧ event.Slips

variable {amiss : Prop} {last : Option Event} {fault : Fault}

theorem Accounts.held (h : fault.isA .pipeline = true) : Accounts amiss last fault :=
  .inl h

theorem Accounts.of_kind {kind : Fault.Kind} (own : fault.kind? = some kind)
    (isA : kind.isA .pipeline = true) : Accounts amiss last fault := by
  refine .held ?_
  rw [Fault.isA, own]
  exact isA

theorem Accounts.of_amiss (h : amiss) : Accounts amiss last fault :=
  .inr (.inl h)

/-- A fault of the measurement that shows a number is one also if the number is too long, as long as
that was amiss. -/
theorem Accounts.showing {n : Int} (held : fault.isA .pipeline = true)
    (long : Number.fitsDecimal n = false → amiss) : Accounts amiss last (.showing n fault) := by
  cases fits : Number.fitsDecimal n with
  | true =>
      rw [Fault.showing_of_fits fits]
      exact .held held
  | false => exact .of_amiss (long fits)

theorem Accounts.slip {event : Event} (h : event.Slips) : Accounts amiss (some event) fault :=
  .inr (.inr ⟨event, rfl, h⟩)

def Act.Accountable {σ α : Type} (amiss : Prop) (act : Act σ α) : Prop :=
  act.FailsFast (Accounts amiss)

open Act (Accountable)

/-! ## Words of memory -/

namespace Session

theorem holdsWord_iff {text : String} : HoldsWord text ↔ ∃ w, wordIn? text = some w := by
  constructor
  · rintro ⟨members, digits, n, parsed, data, value⟩
    exact ⟨.ofInt 32 n, by simp [wordIn?, parsed, data, value]⟩
  · rintro ⟨w, found⟩
    unfold wordIn? at found
    split at found
    · next members parsed =>
        split at found
        · next digits data =>
            obtain ⟨n, value, -⟩ := Option.map_eq_some_iff.mp found
            exact ⟨members, digits, n, parsed, data, value⟩
        · cases found
    · cases found

theorem serves_read_iff {reply : Reply} {address : Int} :
    reply.Serves (.read address) ↔ ∃ w, reply.word? = some w := by
  cases reply with
  | answered status text =>
      by_cases ok : status = 200
      · simp [Reply.Serves, Reply.word?, ok, holdsWord_iff]
      · simp [Reply.Serves, Reply.word?, ok]
  | refused | broken => simp [Reply.Serves, Reply.word?]

theorem serves_write_iff {reply : Reply} {address value : Int} :
    reply.Serves (.write address value) ↔ reply.isTaken = true := by
  cases reply <;> simp [Reply.Serves, Reply.isTaken]

/-- An activity whose request is not served, and which stops there. -/
theorem stops_at_sent {α : Type} {act : Act Connection α} {c : Connection} {request : Request}
    {fault : Fault} (fails : ¬ c.link.next.1.Serves request)
    (stopped : act.run c = ⟨.error fault, [c.sent request], c.behind⟩)
    (accounted : Accounts amiss (some (c.sent request)) fault) :
    (act.run c).StopsAtFailure (Accounts amiss) := by
  rw [stopped]
  exact .of_last fails accounted

theorem accountable_readWord (address : Int) : (readWord address).Accountable amiss := by
  intro c
  cases word : c.link.next.1.word? with
  | some w =>
      have serves : c.link.next.1.Serves (.read address) := serves_read_iff.mpr ⟨w, word⟩
      rw [readWord_of_word word]
      exact .of_ok (calm_singleton.mpr (not_not_intro serves))
  | none =>
      have fails : ¬ c.link.next.1.Serves (.read address) := by
        rw [serves_read_iff, word]
        simp
      apply stops_at_sent fails (readWord_of_unread word address)
      obtain own | ⟨reason, came, -⟩ := c.link.next.1.kind?_readFault address
      · exact .of_kind own rfl
      · exact .slip (by simp [Connection.sent, came, Event.Slips])

theorem accountable_writeWord (address value : Int) : (writeWord address value).Accountable amiss := by
  intro c
  cases taken : c.link.next.1.isTaken with
  | true =>
      have serves : c.link.next.1.Serves (.write address value) := serves_write_iff.mpr taken
      rw [writeWord_of_taken taken]
      exact .of_ok (calm_singleton.mpr (not_not_intro serves))
  | false =>
      have fails : ¬ c.link.next.1.Serves (.write address value) := by
        rw [serves_write_iff, taken]
        simp
      apply stops_at_sent fails (writeWord_of_untaken taken address value)
      obtain own | ⟨reason, came, -⟩ := c.link.next.1.kind?_writeFault address
      · exact .of_kind own rfl
      · exact .slip (by simp [Connection.sent, came, Event.Slips])

theorem accountable_reconnect : reconnect.Accountable amiss := by
  intro c
  by_cases tells : c.link.next.1.TellsStatus
  · by_cases serves : c.link.next.1.Serves .reset
    · obtain ⟨status, connected⟩ := reconnect_of_serves serves
      rw [connected]
      have calm : Calm [c.sent .reset] := calm_singleton.mpr (not_not_intro serves)
      exact .of_ok (calm.append (calm_singleton.mpr id))
    · obtain ⟨fault, refused⟩ := reconnect_of_refusal serves tells
      exact stops_at_sent serves refused (.held rfl)
  · obtain ⟨fault, failed⟩ := reconnect_of_other tells
    have fails : ¬ c.link.next.1.Serves .reset := fun serves => tells serves.tellsStatus
    exact stops_at_sent fails failed (.slip tells)

theorem accountable_borrow {index : Int} (long : Number.fitsDecimal index = false → amiss) :
    (borrow index).Accountable amiss :=
  .bind (.reads _) fun _ => .ite (fun _ => .fail (.showing rfl long)) fun _ => .change _

theorem accountable_borrowing {α : Type} {act : Act Connection α} {index : Int}
    (long : Number.fitsDecimal index = false → amiss) (h : act.Accountable amiss) :
    (borrowing index act).Accountable amiss :=
  (accountable_borrow long).bind fun _ => .ensuring h fun _ => rfl

end Session

/-! ## Cores -/

namespace Core

open Session

theorem accountable_isHalted : isHalted.Accountable amiss :=
  .bind (accountable_readWord _) fun _ => .pure _

theorem accountable_pollHalt {late : Fault} (accounted : Accounts amiss none late) (deadline : Float)
    (budget : Nat) : (pollHalt late deadline budget).Accountable amiss := by
  induction budget with
  | zero =>
      apply Act.FailsFast.bind accountable_isHalted
      intro halted
      exact .ite (fun _ => .pure _) fun _ => .fail accounted
  | succ budget ih =>
      have now : (Connection.onLink Link.now).Accountable amiss := .within (.reads _)
      have pause : (Connection.onLink (Link.sleep pollInterval)).Accountable amiss :=
        fun c => .of_ok (calm_singleton.mpr id)
      apply Act.FailsFast.bind accountable_isHalted
      intro halted
      apply Act.FailsFast.ite
      · exact fun _ => .pure _
      · intro _
        apply Act.FailsFast.bind now
        intro time
        exact .ite (fun _ => .fail accounted) fun _ => .bind pause fun _ => ih

theorem accountable_waitHalted {core : Core} (long : Number.fitsDecimal core.index = false → amiss)
    (timeout : Float) : (core.waitHalted timeout).Accountable amiss :=
  .bind (.within (.reads _)) fun _ => .bind (.reads _) fun _ =>
    accountable_pollHalt (.showing rfl long) _ _

theorem accountable_halt {core : Core} (long : Number.fitsDecimal core.index = false → amiss)
    (timeout : Float) : (core.halt timeout).Accountable amiss :=
  .bind (accountable_writeWord _ _) fun _ => accountable_waitHalted long timeout

theorem accountable_waitReady (polls : Nat) : (waitReady polls).Accountable amiss := by
  induction polls with
  | zero => exact .fail (.held rfl)
  | succ polls ih =>
      apply Act.FailsFast.bind (accountable_readWord _)
      intro w
      exact .ite (fun _ => .pure _) fun _ => ih

theorem accountable_readRegister (register : Int) : (readRegister register).Accountable amiss :=
  .bind (accountable_writeWord _ _) fun _ => .bind (accountable_waitReady _) fun _ =>
    accountable_readWord _

theorem accountable_writeRegister (register value : Int) :
    (writeRegister register value).Accountable amiss :=
  .bind (accountable_writeWord _ _) fun _ => .bind (accountable_writeWord _ _) fun _ =>
    accountable_waitReady _

theorem accountable_resume (core : Core) : core.resume.Accountable amiss := by
  have last : (control .resume).Accountable amiss := accountable_writeWord _ _
  have fetch (pc : Word) : (isAtBreakpoint pc).Accountable amiss :=
    .bind (accountable_readWord _) fun _ => .pure _
  apply Act.FailsFast.bind (accountable_readRegister _)
  intro pc
  apply Act.FailsFast.bind (fetch pc)
  intro stands
  apply Act.FailsFast.ite
  · intro _
    apply Act.FailsFast.bind (.note _ _ _)
    intro _
    exact .bind (accountable_writeRegister _ _) fun _ => last
  · exact fun _ => last

theorem accountable_reset : reset.Accountable amiss := by
  have last : (do
      control .resume
      writeWord Register.aircr systemReset.toNat : Act Connection Unit).Accountable amiss :=
    .bind (accountable_writeWord _ _) fun _ => accountable_writeWord _ _
  apply Act.FailsFast.bind (accountable_readWord _)
  intro demcr
  exact .ite (fun _ => .bind (accountable_writeWord _ _) fun _ => last) fun _ => last

theorem accountable_clearFrom (i n : Nat) : (clearFrom i n).Accountable amiss := by
  induction n generalizing i with
  | zero => exact .pure _
  | succ n ih => exact .bind (accountable_writeWord _ _) fun _ => ih (i + 1)

theorem accountable_clearBreakpoints : clearBreakpoints.Accountable amiss :=
  .bind (accountable_readWord _) fun _ => .bind (accountable_clearFrom _ _) fun _ => .note _ _ _

theorem accountable_readCounter : readCounter.Accountable amiss :=
  .bind (accountable_readWord _) fun _ => .pure _

end Core

namespace Sample

open TickBound.Core

variable {core : Core} {offset : Int}

theorem accountable_take (longIndex : Number.fitsDecimal core.index = false → amiss)
    (timeout : Float) (offset : Int) : (take core timeout offset).Accountable amiss := by
  have enter (stage : Stage) : stage.enter.Accountable amiss := .note _ _ _
  have wait : (core.waitHalted timeout).Accountable amiss := accountable_waitHalted longIndex timeout
  exact .bind (enter _) fun _ => .bind (accountable_halt longIndex timeout) fun _ =>
    .bind accountable_clearBreakpoints fun _ => .bind (enter _) fun _ =>
    .bind accountable_reset fun _ => .bind (enter _) fun _ =>
    .bind wait fun _ => .bind accountable_readCounter fun _ =>
    .bind (enter _) fun _ => .bind core.accountable_resume fun _ =>
    .bind wait fun _ => .bind accountable_readCounter fun _ =>
    .bind (enter _) fun _ => .bind (.note _ _ _) fun _ => .pure _

theorem accounts_of_cycles {sample : Sample} (h : sample.cycles = .error fault)
    (long : Number.fitsDecimal sample.offset = false → amiss) : Accounts amiss none fault := by
  unfold cycles at h
  split at h
  · rw [← Except.error.inj h]
    exact .showing rfl long
  · cases h

theorem accountable_measure (longIndex : Number.fitsDecimal core.index = false → amiss)
    (longOffset : Number.fitsDecimal offset = false → amiss) (timeout : Float) :
    (measure core timeout offset).Accountable amiss := by
  apply Act.FailsFast.bind_of_result (accountable_take longIndex timeout offset)
  intro sample c taken
  obtain ⟨words, -, rfl⟩ := take_result.mp taken
  apply Act.FailsFast.ofExcept
  intro fault failed
  exact accounts_of_cycles failed longOffset

theorem bounds_of_measure {core : Core} {timeout : Float} {offset n : Int} {c : Connection}
    (h : ((measure core timeout offset).run c).result = .ok n) : 0 ≤ n ∧ n ≤ 0xFFFFFF - offset := by
  rw [measure, Act.run_bind, Course.follow_result_ok] at h
  obtain ⟨sample, taken, counted⟩ := h
  obtain ⟨words, -, rfl⟩ := take_result.mp taken
  exact bounds_of_cycles counted

end Sample

end TickBound
