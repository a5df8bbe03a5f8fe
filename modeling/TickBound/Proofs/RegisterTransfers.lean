import Mathlib.Data.List.GetD
import TickBound.Proofs.Resuming
import TickBound.Proofs.Traffic
import TickBound.Proofs.Waiting

/-!
# Transfers of core registers

A transfer is started by selecting the register, and then polled until it is complete, but not more than
ten times. A word is read only behind a poll that shows the transfer complete, and a word to be written
is laid down before its register is selected. Nothing else happens during a transfer: no pause between
the polls, and no request behind one that fails.
-/

namespace TickBound

def Session.asked (session : Session) (x : Exchange) : Event :=
  .requested session.url x.request session.timeout x.reply

/-- Behind a request the replies are numbered from the next one on. -/
theorem Connection.reply_behind (c : Connection) (i : Nat) :
    c.behind.link.reply i = c.link.reply (1 + i) := by
  rw [behind, Link.next_eq]
  simp [Link.reply, List.getD_eq_getElem?_getD, Nat.add_comm]

namespace Act

variable {α β : Type}

/-- The activity sends requests over the session and does nothing else. They get the replies of the link
one after another. -/
structure OnlyAsks (act : Act Connection α) : Prop where
  events : ∀ c, (act.run c).events = (exchanges (act.run c).events).map c.session.asked
  replies : ∀ c, (exchanges (act.run c).events).map Exchange.reply =
    (List.range (exchanges (act.run c).events).length).map c.link.reply
  session : ∀ c, (act.run c).final.session = c.session
  rest : ∀ c i, (act.run c).final.link.reply i =
    c.link.reply ((exchanges (act.run c).events).length + i)

theorem onlyAsks_of_one {act : Act Connection α} {request : Request}
    (h : ∀ c, ∃ result, act.run c = ⟨result, [c.sent request], c.behind⟩) : act.OnlyAsks := by
  have first (c : Connection) : c.link.next.1 = c.link.reply 0 := congrArg Prod.fst c.link.next_eq
  constructor
  · intro c
    obtain ⟨result, run⟩ := h c
    rw [run]
    rfl
  · intro c
    obtain ⟨result, run⟩ := h c
    rw [run]
    exact congrArg (fun reply => [reply]) (first c)
  · intro c
    obtain ⟨result, run⟩ := h c
    rw [run]
    rfl
  · intro c i
    obtain ⟨result, run⟩ := h c
    rw [run]
    exact c.reply_behind i

theorem onlyAsks_readWord (address : Int) : (Session.readWord address).OnlyAsks := by
  apply onlyAsks_of_one
  intro c
  cases word : c.link.next.1.word? with
  | some w => exact ⟨_, Session.readWord_of_word word address⟩
  | none => exact ⟨_, Session.readWord_of_unread word address⟩

theorem onlyAsks_writeWord (address value : Int) : (Session.writeWord address value).OnlyAsks := by
  apply onlyAsks_of_one
  intro c
  cases taken : c.link.next.1.isTaken with
  | true => exact ⟨_, Session.writeWord_of_taken taken address value⟩
  | false => exact ⟨_, Session.writeWord_of_untaken taken address value⟩

namespace OnlyAsks

theorem of_silent {act : Act Connection α} (h : ∀ c, ∃ result, act.run c = ⟨result, [], c⟩) :
    act.OnlyAsks := by
  constructor
  · intro c
    obtain ⟨result, run⟩ := h c
    rw [run]
    rfl
  · intro c
    obtain ⟨result, run⟩ := h c
    rw [run]
    rfl
  · intro c
    obtain ⟨result, run⟩ := h c
    rw [run]
  · intro c i
    obtain ⟨result, run⟩ := h c
    rw [run]
    exact congrArg c.link.reply (Nat.zero_add i).symm

theorem bind {act : Act Connection α} {next : α → Act Connection β} (first : act.OnlyAsks)
    (second : ∀ a, (next a).OnlyAsks) : (act >>= next).OnlyAsks := by
  constructor
  · intro c
    cases h : (act.run c).result with
    | error fault =>
        rw [run_bind_of_error h]
        exact first.events c
    | ok a =>
        have more := (second a).events (act.run c).final
        rw [first.session] at more
        rw [run_bind_of_ok h, exchanges_append, List.map_append, ← first.events, ← more]
  · intro c
    cases h : (act.run c).result with
    | error fault =>
        rw [run_bind_of_error h]
        exact first.replies c
    | ok a =>
        have more := (second a).replies (act.run c).final
        have later : (act.run c).final.link.reply =
            c.link.reply ∘ ((exchanges (act.run c).events).length + ·) :=
          funext (first.rest c)
        rw [later, ← List.map_map] at more
        rw [run_bind_of_ok h, exchanges_append, List.map_append, List.length_append, List.range_add,
          List.map_append, first.replies, more]
  · intro c
    cases h : (act.run c).result with
    | error fault =>
        rw [run_bind_of_error h]
        exact first.session c
    | ok a =>
        rw [run_bind_of_ok h]
        exact ((second a).session _).trans (first.session c)
  · intro c i
    cases h : (act.run c).result with
    | error fault =>
        rw [run_bind_of_error h]
        exact first.rest c i
    | ok a =>
        rw [run_bind_of_ok h, (second a).rest, first.rest, exchanges_append, List.length_append,
          Nat.add_assoc]

end OnlyAsks

def EndsIn (act : Act Connection α) (R : List Exchange → Except Fault α → Prop) : Prop :=
  ∀ c, R (exchanges (act.run c).events) (act.run c).result

theorem EndsIn.mono {act : Act Connection α} {R S : List Exchange → Except Fault α → Prop}
    (h : act.EndsIn R) (more : ∀ {xs result}, R xs result → S xs result) : act.EndsIn S :=
  fun c => more (h c)

/-- One relation behind another: a fault of the first is where it ends. -/
inductive Followed (R : List Exchange → Except Fault α → Prop)
    (S : α → List Exchange → Except Fault β → Prop) : List Exchange → Except Fault β → Prop where
  | failed {xs : List Exchange} {fault : Fault} :
      R xs (.error fault) → Followed R S xs (.error fault)
  | goes {xs ys : List Exchange} {a : α} {result : Except Fault β} :
      R xs (.ok a) → S a ys result → Followed R S (xs ++ ys) result

theorem EndsIn.bind {act : Act Connection α} {next : α → Act Connection β}
    {R : List Exchange → Except Fault α → Prop} {S : α → List Exchange → Except Fault β → Prop}
    (first : act.EndsIn R) (second : ∀ a, (next a).EndsIn (S a)) :
    (act >>= next).EndsIn (Followed R S) := by
  intro c
  have one := first c
  cases h : (act.run c).result with
  | error fault =>
      rw [h] at one
      rw [run_bind_of_error h]
      exact .failed one
  | ok a =>
      rw [h] at one
      rw [run_bind_of_ok h, exchanges_append]
      exact .goes one (second a _)

end Act

/-! ## Single exchanges -/

open Exchange

inductive Written (address value : Int) : List Exchange → Except Fault Unit → Prop where
  | taken {x : Exchange} : x.Puts address value → Written address value [x] (.ok ())
  | untaken {x : Exchange} :
      x.request = .write address value → x.reply.isTaken = false →
        Written address value [x] (.error (x.reply.writeFault address))

inductive WordRead (address : Int) : List Exchange → Except Fault Word → Prop where
  | word {x : Exchange} {w : Word} : x.Brings address w → WordRead address [x] (.ok w)
  | unread {x : Exchange} :
      x.request = .read address → x.reply.word? = none →
        WordRead address [x] (.error (x.reply.readFault address))

theorem Session.writeWord_endsIn (address value : Int) :
    (writeWord address value).EndsIn (Written address value) := by
  intro c
  cases taken : c.link.next.1.isTaken with
  | true =>
      rw [writeWord_of_taken taken]
      exact .taken ⟨rfl, taken⟩
  | false =>
      rw [writeWord_of_untaken taken]
      exact .untaken (x := ⟨.write address value, c.link.next.1⟩) rfl taken

theorem Session.readWord_endsIn (address : Int) : (readWord address).EndsIn (WordRead address) := by
  intro c
  cases word : c.link.next.1.word? with
  | some w =>
      rw [readWord_of_word word]
      exact .word ⟨rfl, word⟩
  | none =>
      rw [readWord_of_unread word]
      exact .unread (x := ⟨.read address, c.link.next.1⟩) rfl word

theorem Written.asks {address value : Int} {xs : List Exchange} {result : Except Fault Unit}
    (h : Written address value xs result) : ∃ x, xs = [x] ∧ x.request = .write address value := by
  cases h with
  | taken puts => exact ⟨_, rfl, puts.1⟩
  | untaken asked => exact ⟨_, rfl, asked⟩

theorem WordRead.asks {address : Int} {xs : List Exchange} {result : Except Fault Word}
    (h : WordRead address xs result) : ∃ x, xs = [x] ∧ x.request = .read address := by
  cases h with
  | word brings => exact ⟨_, rfl, brings.1⟩
  | unread asked => exact ⟨_, rfl, asked⟩

/-! ## Polls of a transfer -/

def Reply.IsUnready (reply : Reply) : Prop :=
  ∃ w, reply.word? = some w ∧ w.getLsbD 16 = false

/-- How waiting for a transfer ends: with the first poll that shows it complete, behind as many polls as
there may be, or with a poll that fails. -/
inductive Awaited (most : Nat) : List Exchange → Except Fault Unit → Prop where
  | ready {polls : List Exchange} :
      PollsFor 0xE000EDF0 16 most polls → Awaited most polls (.ok ())
  | stuck {polls : List Exchange} :
      polls.length = most → (∀ y ∈ polls, y.Shows 0xE000EDF0 16 false) →
        Awaited most polls (.error (.memory .transferStuck))
  | failed {before : List Exchange} {x : Exchange} :
      before.length < most → (∀ y ∈ before, y.Shows 0xE000EDF0 16 false) →
        x.request = .read 0xE000EDF0 → x.reply.word? = none →
          Awaited most (before ++ [x]) (.error (x.reply.readFault 0xE000EDF0))

namespace Awaited

variable {most : Nat} {polls : List Exchange} {result : Except Fault Unit}

/-- One more poll in front that does not show the transfer complete. -/
theorem cons {x : Exchange} (clear : x.Shows 0xE000EDF0 16 false) (rest : Awaited most polls result) :
    Awaited (most + 1) (x :: polls) result := by
  cases rest with
  | ready polled =>
      obtain ⟨before, y, rfl, few, unset, set⟩ := polled
      exact .ready ⟨x :: before, y, rfl, Nat.succ_lt_succ few, List.forall_mem_cons.mpr ⟨clear, unset⟩,
        set⟩
  | stuck all unset =>
      exact .stuck (congrArg Nat.succ all) (List.forall_mem_cons.mpr ⟨clear, unset⟩)
  | @failed before y few unset asked unread =>
      exact @failed _ (x :: before) y (Nat.succ_lt_succ few)
        (List.forall_mem_cons.mpr ⟨clear, unset⟩) asked unread

theorem length_le (h : Awaited most polls result) : polls.length ≤ most := by
  cases h with
  | ready polled =>
      obtain ⟨before, y, rfl, few, -⟩ := polled
      rw [List.length_append]
      exact few
  | stuck all => exact Nat.le_of_eq all
  | failed few =>
      rw [List.length_append]
      exact few

/-- Every poll reads the debug status. -/
theorem mem_read (h : Awaited most polls result) : ∀ y ∈ polls, y.request = .read 0xE000EDF0 := by
  have shown {y : Exchange} {set : Bool} (h : y.Shows 0xE000EDF0 16 set) :
      y.request = .read 0xE000EDF0 := by
    obtain ⟨w, ⟨read, -⟩, -⟩ := h
    exact read
  cases h with
  | ready polled =>
      obtain ⟨before, x, rfl, -, unset, set⟩ := polled
      exact List.forall_mem_append.mpr
        ⟨fun y hy => shown (unset y hy), List.forall_mem_singleton.mpr (shown set)⟩
  | stuck all unset => exact fun y hy => shown (unset y hy)
  | failed few unset asked =>
      exact List.forall_mem_append.mpr
        ⟨fun y hy => shown (unset y hy), List.forall_mem_singleton.mpr asked⟩

/-- Waiting succeeds exactly when a poll shows the transfer complete. -/
theorem ok_iff (h : Awaited most polls result) :
    result = .ok () ↔ ∃ y ∈ polls, y.Shows 0xE000EDF0 16 true := by
  have apart {y : Exchange} (clear : y.Shows 0xE000EDF0 16 false) (set : y.Shows 0xE000EDF0 16 true) :
      False := by
    obtain ⟨v, ⟨-, came⟩, unset⟩ := clear
    obtain ⟨w, ⟨-, came'⟩, set⟩ := set
    obtain rfl := Option.some.inj (came.symm.trans came')
    exact Bool.false_ne_true (unset.symm.trans set)
  cases h with
  | ready polled =>
      obtain ⟨before, x, rfl, -, -, set⟩ := polled
      exact ⟨fun _ => ⟨x, by simp, set⟩, fun _ => rfl⟩
  | stuck all unset =>
      refine ⟨nofun, ?_⟩
      rintro ⟨y, hy, set⟩
      exact absurd set (apart (unset y hy))
  | @failed before x few unset asked unread =>
      refine ⟨nofun, ?_⟩
      rintro ⟨y, hy, set⟩
      rcases List.mem_append.mp hy with earlier | last
      · exact absurd set (apart (unset y earlier))
      · obtain rfl := List.mem_singleton.mp last
        obtain ⟨w, ⟨-, came⟩, -⟩ := set
        cases unread.symm.trans came

/-- A poll that fails or shows the transfer complete is not one that shows it incomplete, so with such
polls alone there are as many as there may be. -/
theorem stuck_of_unready (h : Awaited most polls result) (unready : ∀ y ∈ polls, y.reply.IsUnready) :
    polls.length = most ∧ result = .error (.memory .transferStuck) := by
  cases h with
  | ready polled =>
      obtain ⟨before, x, rfl, -, -, w, brings, set⟩ := polled
      obtain ⟨v, came, clear⟩ := unready x (by simp)
      obtain rfl := Option.some.inj (came.symm.trans brings.2)
      rw [set] at clear
      cases clear
  | stuck all => exact ⟨all, rfl⟩
  | @failed before x few unset asked unread =>
      obtain ⟨v, came, -⟩ := unready x (by simp)
      rw [unread] at came
      cases came

end Awaited

namespace Core

open Act

theorem onlyAsks_waitReady (most : Nat) : (waitReady most).OnlyAsks := by
  induction most with
  | zero => exact .of_silent fun c => ⟨_, rfl⟩
  | succ most ih =>
      refine .bind (onlyAsks_readWord _) fun w => ?_
      by_cases ready : isReadyWord w = true
      · rw [if_pos ready]
        exact .of_silent fun c => ⟨_, rfl⟩
      · rw [if_neg ready]
        exact ih

/-- Polls go on while the transfer is not complete, so each of them uses up one of those that there may
be. -/
theorem waitReady_endsIn (most : Nat) : (waitReady most).EndsIn (Awaited most) := by
  induction most with
  | zero =>
      intro c
      exact .stuck rfl (List.forall_mem_nil _)
  | succ most ih =>
      intro c
      rw [waitReady, run_bind]
      cases word : c.link.next.1.word? with
      | none =>
          rw [Session.readWord_of_unread word, Course.follow_error]
          exact @Awaited.failed _ [] ⟨.read Register.dhcsr, c.link.next.1⟩ (Nat.succ_pos most)
            (List.forall_mem_nil _) rfl word
      | some w =>
          have brings : Brings ⟨.read Register.dhcsr, c.link.next.1⟩ 0xE000EDF0 w := ⟨rfl, word⟩
          rw [Session.readWord_of_word word, Course.follow_ok]
          by_cases ready : isReadyWord w = true
          · rw [if_pos ready]
            exact .ready ⟨[], _, rfl, Nat.succ_pos most, List.forall_mem_nil _, w, brings, ready⟩
          · rw [if_neg ready]
            exact (ih c.behind).cons ⟨w, brings, Bool.eq_false_iff.mpr ready⟩

/-! ## Transfers -/

/-- A core register is read by selecting it, polls, and a read of what the transfer has brought. Only a
transfer that a poll shows complete comes to the read. -/
inductive ReadsRegister (register : Int) : List Exchange → Except Fault Word → Prop where
  | unselected {xs : List Exchange} {fault : Fault} :
      Written 0xE000EDF4 register xs (.error fault) → ReadsRegister register xs (.error fault)
  | unready {select : Exchange} {polls : List Exchange} {fault : Fault} :
      select.Puts 0xE000EDF4 register → Awaited 10 polls (.error fault) →
        ReadsRegister register (select :: polls) (.error fault)
  | complete {select : Exchange} {polls xs : List Exchange} {result : Except Fault Word} :
      select.Puts 0xE000EDF4 register → Awaited 10 polls (.ok ()) → WordRead 0xE000EDF8 xs result →
        ReadsRegister register (select :: (polls ++ xs)) result

/-- A core register is written by laying down the value, selecting the register to be written, and polls. -/
inductive WritesRegister (register value : Int) : List Exchange → Except Fault Unit → Prop where
  | unset {xs : List Exchange} {fault : Fault} :
      Written 0xE000EDF8 (value % 0x100000000) xs (.error fault) →
        WritesRegister register value xs (.error fault)
  | unselected {set : Exchange} {xs : List Exchange} {fault : Fault} :
      set.Puts 0xE000EDF8 (value % 0x100000000) →
        Written 0xE000EDF4 (0x10000 + register) xs (.error fault) →
          WritesRegister register value (set :: xs) (.error fault)
  | polled {set select : Exchange} {polls : List Exchange} {result : Except Fault Unit} :
      set.Puts 0xE000EDF8 (value % 0x100000000) → select.Puts 0xE000EDF4 (0x10000 + register) →
        Awaited 10 polls result → WritesRegister register value (set :: select :: polls) result

section Transfers

variable {register value : Int}

theorem readRegister_endsIn (register : Int) :
    (readRegister register).EndsIn (ReadsRegister register) := by
  have whole := (Session.writeWord_endsIn Register.dcrsr register).bind fun _ =>
    (waitReady_endsIn mostPolls).bind fun _ => Session.readWord_endsIn Register.dcrdr
  refine whole.mono fun h => ?_
  cases h with
  | failed selects => exact .unselected selects
  | goes selects rest =>
      cases selects with | taken selected =>
      cases rest with
      | failed polls => exact .unready selected polls
      | @goes polls xs _ _ ready reads =>
          exact @ReadsRegister.complete register _ polls xs _ selected ready reads

/-- What selects a core register to be written has bit 16 besides the number. -/
theorem writeSelector_eq (number : IsRegisterNumber register) :
    writeSelector register = 0x10000 + register := by
  obtain ⟨nonneg, below⟩ := number
  rw [writeSelector, if_neg (by omega), Int.add_comm]

/-- A value is laid down modulo 2^32, whatever its sign and size. -/
theorem toNat_ofInt (value : Int) : ((BitVec.ofInt 32 value).toNat : Int) = value % 0x100000000 := by
  rw [BitVec.toNat_ofInt]
  exact Int.toNat_of_nonneg (Int.emod_nonneg value (by decide))

theorem writeRegister_endsIn (number : IsRegisterNumber register) (value : Int) :
    (writeRegister register value).EndsIn (WritesRegister register value) := by
  have whole := (Session.writeWord_endsIn Register.dcrdr (BitVec.ofInt 32 value).toNat).bind fun _ =>
    (Session.writeWord_endsIn Register.dcrsr (writeSelector register)).bind fun _ =>
      waitReady_endsIn mostPolls
  refine whole.mono fun h => ?_
  rw [toNat_ofInt, writeSelector_eq number] at h
  cases h with
  | failed sets => exact .unset sets
  | goes sets rest =>
      cases sets with | taken set =>
      cases rest with
      | failed selects => exact .unselected set selects
      | goes selects polls =>
          cases selects with | taken selected =>
          exact .polled set selected polls

end Transfers

/-! ## How many polls there are, and what they decide -/

def pollCount (xs : List Exchange) : Nat :=
  xs.countP fun x => x.request = .read 0xE000EDF0

theorem pollCount_cons {x : Exchange} (other : x.request ≠ .read 0xE000EDF0) (xs : List Exchange) :
    pollCount (x :: xs) = pollCount xs :=
  List.countP_cons_of_neg (by simpa using other)

theorem pollCount_cons_write {x : Exchange} {address value : Int}
    (asked : x.request = .write address value) (xs : List Exchange) :
    pollCount (x :: xs) = pollCount xs :=
  pollCount_cons (by simp [asked]) xs

theorem pollCount_append (xs ys : List Exchange) : pollCount (xs ++ ys) = pollCount xs + pollCount ys :=
  List.countP_append

theorem pollCount_of_awaited {most : Nat} {polls : List Exchange} {result : Except Fault Unit}
    (h : Awaited most polls result) : pollCount polls = polls.length :=
  List.countP_eq_length.mpr fun y hy => decide_eq_true (h.mem_read y hy)

namespace ReadsRegister

variable {register : Int} {xs : List Exchange} {result : Except Fault Word}

theorem pollCount_le (h : ReadsRegister register xs result) : pollCount xs ≤ 10 := by
  cases h with
  | unselected selects =>
      obtain ⟨x, rfl, asked⟩ := selects.asks
      rw [pollCount_cons_write asked]
      exact Nat.zero_le 10
  | unready selected awaited =>
      rw [pollCount_cons_write selected.1, pollCount_of_awaited awaited]
      exact awaited.length_le
  | complete selected awaited reads =>
      obtain ⟨x, rfl, asked⟩ := reads.asks
      rw [pollCount_cons_write selected.1, pollCount_append, pollCount_of_awaited awaited,
        pollCount_cons (by simp [asked])]
      exact awaited.length_le

/-- What a transfer has brought is read exactly if one of its polls shows it complete. -/
theorem reads_iff (h : ReadsRegister register xs result) :
    (∃ x ∈ xs, x.request = .read 0xE000EDF8) ↔ ∃ x ∈ xs, x.Shows 0xE000EDF0 16 true := by
  have unshown {x : Exchange} {address value : Int} (asked : x.request = .write address value) :
      ¬ x.Shows 0xE000EDF0 16 true := by
    rintro ⟨w, ⟨read, -⟩, -⟩
    cases asked.symm.trans read
  cases h with
  | unselected selects =>
      obtain ⟨x, rfl, asked⟩ := selects.asks
      simp [asked, unshown asked]
  | @unready select polls fault selected awaited =>
      have unread : ∀ y ∈ polls, y.request ≠ .read 0xE000EDF8 := by
        intro y hy read
        cases (awaited.mem_read y hy).symm.trans read
      have clear : ¬ ∃ y ∈ polls, y.Shows 0xE000EDF0 16 true := by
        intro shown
        cases awaited.ok_iff.mpr shown
      constructor
      · rintro ⟨x, hx, read⟩
        rcases List.mem_cons.mp hx with rfl | later
        · cases selected.1.symm.trans read
        · exact absurd read (unread x later)
      · rintro ⟨x, hx, shown⟩
        rcases List.mem_cons.mp hx with rfl | later
        · exact absurd shown (unshown selected.1)
        · exact absurd ⟨x, later, shown⟩ clear
  | @complete select polls xs result selected awaited reads =>
      obtain ⟨x, rfl, asked⟩ := reads.asks
      obtain ⟨y, hy, shown⟩ := awaited.ok_iff.mp rfl
      exact ⟨fun _ => ⟨y, by simp [hy], shown⟩, fun _ => ⟨x, by simp, asked⟩⟩

end ReadsRegister

theorem WritesRegister.pollCount_le {register value : Int} {xs : List Exchange}
    {result : Except Fault Unit} (h : WritesRegister register value xs result) : pollCount xs ≤ 10 := by
  cases h with
  | unset sets =>
      obtain ⟨x, rfl, asked⟩ := sets.asks
      rw [pollCount_cons_write asked]
      exact Nat.zero_le 10
  | unselected set selects =>
      obtain ⟨x, rfl, asked⟩ := selects.asks
      rw [pollCount_cons_write set.1, pollCount_cons_write asked]
      exact Nat.zero_le 10
  | polled set selected awaited =>
      rw [pollCount_cons_write set.1, pollCount_cons_write selected.1, pollCount_of_awaited awaited]
      exact awaited.length_le

/-! ## Transfers that are never complete -/

/-- The replies take as many requests as are `sent` first, and then leave ten polls without the bit. -/
structure LeavesUnready (link : Link) (sent : Nat) : Prop where
  taken : ∀ i < sent, (link.reply i).isTaken = true
  unready : ∀ i < 10, (link.reply (sent + i)).IsUnready

def GetsStuck {α : Type} (act : Act Connection α) (sent : Nat) : Prop :=
  ∀ c, LeavesUnready c.link sent →
    let course := act.run c
    course.result = .error (.memory .transferStuck) ∧
      (exchanges course.events).length = sent + 10 ∧ pollCount (exchanges course.events) = 10

theorem getsStuck_waitReady : GetsStuck (waitReady 10) 0 := by
  intro c leaves course
  have awaited : Awaited 10 (exchanges course.events) course.result := waitReady_endsIn 10 c
  have replies := (onlyAsks_waitReady 10).replies c
  have unready : ∀ y ∈ exchanges course.events, y.reply.IsUnready := by
    intro y hy
    have came : y.reply ∈ (exchanges course.events).map Exchange.reply := List.mem_map_of_mem hy
    rw [replies] at came
    obtain ⟨i, hi, same⟩ := List.mem_map.mp came
    have few := Nat.lt_of_lt_of_le (List.mem_range.mp hi) awaited.length_le
    have at_i := leaves.unready i few
    rwa [Nat.zero_add, same] at at_i
  obtain ⟨most, stuck⟩ := awaited.stuck_of_unready unready
  refine ⟨stuck, by rw [most], ?_⟩
  rw [pollCount_of_awaited awaited, most]

namespace GetsStuck

variable {α β : Type} {sent : Nat}

/-- Nothing follows behind the polls. -/
theorem bind {act : Act Connection α} (h : GetsStuck act sent) (next : α → Act Connection β) :
    GetsStuck (act >>= next) sent := by
  intro c leaves
  obtain ⟨stuck, length, count⟩ := h c leaves
  rw [run_bind_of_error stuck]
  exact ⟨rfl, length, count⟩

theorem behind_write {next : Unit → Act Connection β} (h : GetsStuck (next ()) sent)
    (address value : Int) : GetsStuck (Session.writeWord address value >>= next) (sent + 1) := by
  intro c leaves
  have first : c.link.next.1.isTaken = true := by
    rw [c.link.next_eq]
    exact leaves.taken 0 (Nat.succ_pos sent)
  have later : LeavesUnready c.behind.link sent := by
    constructor
    · intro i hi
      rw [c.reply_behind]
      exact leaves.taken (1 + i) (by omega)
    · intro i hi
      have unready := leaves.unready i hi
      rwa [c.reply_behind, show 1 + (sent + i) = sent + 1 + i by omega]
  obtain ⟨stuck, length, count⟩ := h c.behind later
  rw [run_bind, Session.writeWord_of_taken first, Course.follow_ok]
  refine ⟨stuck, ?_, ?_⟩
  · rw [exchanges_append, exchanges_sent, List.length_append, length]
    exact Nat.add_comm 1 _
  · rw [exchanges_append, exchanges_sent, exchanges_nil, List.singleton_append,
      pollCount_cons_write rfl, count]

end GetsStuck

theorem getsStuck_readRegister (register : Int) : GetsStuck (readRegister register) 1 :=
  .behind_write (.bind getsStuck_waitReady _) _ _

theorem getsStuck_writeRegister (register value : Int) : GetsStuck (writeRegister register value) 2 :=
  .behind_write (.behind_write getsStuck_waitReady _ _) _ _

theorem onlyAsks_readRegister (register : Int) : (readRegister register).OnlyAsks :=
  .bind (onlyAsks_writeWord _ _) fun _ => .bind (onlyAsks_waitReady _) fun _ => onlyAsks_readWord _

theorem onlyAsks_writeRegister (register value : Int) : (writeRegister register value).OnlyAsks :=
  .bind (onlyAsks_writeWord _ _) fun _ => .bind (onlyAsks_writeWord _ _) fun _ => onlyAsks_waitReady _

/-- A transfer sends its requests in a fixed order and does nothing else: a value is laid down before its
register is selected, a word is read only behind a poll that shows the transfer complete. There are at
most ten polls, and behind ten without the bit the transfer fails at once. -/
theorem register_transfers_bounded {register : Int} (number : IsRegisterNumber register) (value : Int) :
    ((readRegister register).OnlyAsks ∧ (writeRegister register value).OnlyAsks) ∧
    (∀ c, let course := (readRegister register).run c
      let xs := exchanges course.events
      ReadsRegister register xs course.result ∧ pollCount xs ≤ 10 ∧
        ((∃ x ∈ xs, x.request = .read 0xE000EDF8) ↔ ∃ x ∈ xs, x.Shows 0xE000EDF0 16 true)) ∧
    (∀ c, let course := (writeRegister register value).run c
      let xs := exchanges course.events
      WritesRegister register value xs course.result ∧ pollCount xs ≤ 10) ∧
    GetsStuck (readRegister register) 1 ∧ GetsStuck (writeRegister register value) 2 ∧
    (Fault.memory .transferStuck).kind? = some .memory := by
  refine ⟨⟨onlyAsks_readRegister register, onlyAsks_writeRegister register value⟩, fun c => ?_,
    fun c => ?_, getsStuck_readRegister register, getsStuck_writeRegister register value, rfl⟩
  · intro course xs
    have reads : ReadsRegister register xs course.result := readRegister_endsIn register c
    exact ⟨reads, reads.pollCount_le, reads.reads_iff⟩
  · intro course xs
    have writes : WritesRegister register value xs course.result :=
      writeRegister_endsIn number value c
    exact ⟨writes, writes.pollCount_le⟩

def noBits : Reply := .answered 200 "\x7b\"data\": \"0x0\"\x7d"

def neverComplete : Connection where
  link := { answers := List.replicate 12 ⟨noBits, 0⟩ }
  session := { url := "http://192.168.4.1/api" }

theorem neverComplete_leavesUnready : LeavesUnready neverComplete.link 2 := by
  have reply (i : Nat) (few : i < 12) : neverComplete.link.reply i = noBits :=
    congrArg Answer.reply (List.getD_replicate _ few)
  constructor
  · intro i hi
    rw [reply i (by omega)]
    rfl
  · intro i hi
    rw [reply (2 + i) (by omega)]
    exact ⟨0#32, Reply.word?_answered (by decide +kernel), by decide⟩

theorem register_transfers_bounded_neverComplete :
    let course := (writeRegister 0xFFFF (-2)).run neverComplete
    IsRegisterNumber 0xFFFF ∧ course.result = .error (.memory .transferStuck) ∧
      (exchanges course.events).length = 12 ∧ pollCount (exchanges course.events) = 10 := by
  have number : IsRegisterNumber 0xFFFF := ⟨by decide, by decide⟩
  obtain ⟨-, -, -, -, stuck, -⟩ := register_transfers_bounded number (-2)
  exact ⟨number, stuck neverComplete neverComplete_leavesUnready⟩

end Core

end TickBound
