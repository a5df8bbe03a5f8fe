import TickBound.Proofs.CounterReads

/-!
# How a core is resumed

A core that stands on a breakpoint is moved behind it before it runs on. The write that makes it run is
the last request, so it is sent only when the program counter is known and its move is complete.
-/

namespace TickBound

namespace Exchange

def Puts (x : Exchange) (address value : Int) : Prop :=
  x.request = .write address value ∧ x.reply.isTaken = true

/-- The exchange brings a word from an address, with the bit or without it. -/
def Shows (x : Exchange) (address : Int) (bit : Nat) (set : Bool) : Prop :=
  ∃ w, x.Brings address w ∧ w.getLsbD bit = set

def Fails (x : Exchange) : Prop :=
  (∃ address, x.request = .read address ∧ x.reply.word? = none) ∨
    ∃ address value, x.request = .write address value ∧ x.reply.isTaken = false

def write? (x : Exchange) : Option (Int × Int) :=
  match x.request with
  | .write address value => some (address, value)
  | _ => none

theorem Puts.write? {x : Exchange} {address value : Int} (h : x.Puts address value) :
    x.write? = some (address, value) := by
  simp [Exchange.write?, h.1]

theorem Shows.write? {x : Exchange} {address : Int} {bit : Nat} {set : Bool}
    (h : x.Shows address bit set) : x.write? = none := by
  obtain ⟨w, ⟨read, -⟩, -⟩ := h
  simp [Exchange.write?, read]

end Exchange

open Exchange

/-- At most so many polls, and only the last one shows the bit. -/
def PollsFor (address : Int) (bit : Nat) (most : Nat) (xs : List Exchange) : Prop :=
  ∃ before x, xs = before ++ [x] ∧ before.length < most ∧
    (∀ y ∈ before, y.Shows address bit false) ∧ x.Shows address bit true

/-- The last exchange fails, or the last ones are as many polls as there may be, none of which shows the
bit. -/
def StopsShort (address : Int) (bit : Nat) (most : Nat) (xs : List Exchange) : Prop :=
  (∃ ahead x, xs = ahead ++ [x] ∧ x.Fails) ∨
    ∃ ahead polls, xs = ahead ++ polls ∧ polls.length = most ∧
      ∀ y ∈ polls, y.Shows address bit false

theorem StopsShort.append_left {address : Int} {bit most : Nat} {ys : List Exchange}
    (h : StopsShort address bit most ys) (xs : List Exchange) :
    StopsShort address bit most (xs ++ ys) := by
  rcases h with ⟨ahead, x, rfl, fails⟩ | ⟨ahead, polls, rfl, most, clear⟩
  · exact .inl ⟨xs ++ ahead, x, by simp, fails⟩
  · exact .inr ⟨xs ++ ahead, polls, by simp, most, clear⟩

def writes (xs : List Exchange) : List (Int × Int) :=
  xs.filterMap Exchange.write?

theorem writes_of_pollsFor {address : Int} {bit most : Nat} {xs : List Exchange}
    (h : PollsFor address bit most xs) : writes xs = [] := by
  obtain ⟨before, x, rfl, -, clear, set⟩ := h
  refine List.filterMap_eq_nil_iff.mpr fun y hy => ?_
  rcases List.mem_append.mp hy with earlier | last
  · exact (clear y earlier).write?
  · obtain rfl := List.mem_singleton.mp last
    exact set.write?

namespace Protocol

variable {α β : Type}

/-! ## Single operations -/

theorem not_breaks_done {a : α} {xs : List Exchange} : ¬ (done a).Breaks xs := by
  intro h
  cases h with
  | last asks | step asks => cases asks

theorem Completes.of_put {address value : Int} {xs : List Exchange} {u : Unit}
    (h : (put address value).Completes xs u) : ∃ x, xs = [x] ∧ x.Puts address value := by
  cases h with
  | @step p q x xs a asks after rest =>
      cases taken : x.reply.isTaken with
      | true =>
          simp only [put, Protocol.after, taken, if_true, Option.some.injEq] at after
          subst after
          obtain ⟨rfl, -⟩ := rest.of_done
          exact ⟨x, rfl, (Option.some.inj asks).symm, taken⟩
      | false => simp [put, Protocol.after, taken] at after

theorem Breaks.of_put {address value : Int} {xs : List Exchange}
    (h : (put address value).Breaks xs) :
    ∃ x, xs = [x] ∧ x.request = .write address value ∧ x.reply.isTaken = false := by
  cases h with
  | @last p x asks after =>
      refine ⟨x, rfl, (Option.some.inj asks).symm, ?_⟩
      simpa [put, Protocol.after] using after
  | step asks after rest =>
      simp only [put, Protocol.after] at after
      split at after
      · cases after
        exact absurd rest not_breaks_done
      · cases after

theorem Breaks.of_get {address : Int} {xs : List Exchange} (h : (get address).Breaks xs) :
    ∃ x, xs = [x] ∧ x.request = .read address ∧ x.reply.word? = none := by
  cases h with
  | @last p x asks after =>
      exact ⟨x, rfl, (Option.some.inj asks).symm, Option.map_eq_none_iff.mp after⟩
  | step asks after rest =>
      obtain ⟨v, -, rfl⟩ := Option.map_eq_some_iff.mp after
      exact absurd rest not_breaks_done

theorem Completes.pollsFor {address : Int} {bit : Fin 32} {n : Nat} {xs : List Exchange} {u : Unit}
    (h : (await address bit (some n)).Completes xs u) : PollsFor address bit (n + 1) xs := by
  induction xs generalizing n with
  | nil => cases h
  | cons x xs ih =>
      obtain ⟨asks, q, after, rest⟩ := completes_cons_iff.mp h
      obtain ⟨w, hw, goes⟩ := Option.bind_eq_some_iff.mp after
      have brings : x.Brings address w := ⟨(Option.some.inj asks).symm, hw⟩
      rcases behindPoll_eq_some goes with ⟨set, rfl⟩ | ⟨clear, fewer, hf, rfl⟩
      · obtain ⟨rfl, -⟩ := rest.of_done
        exact ⟨[], x, rfl, Nat.succ_pos n, by simp, w, brings, set⟩
      · cases n with
        | zero => cases hf
        | succ n =>
            obtain rfl := Option.some.inj hf
            obtain ⟨before, y, rfl, most, unset, set⟩ := ih rest
            have unset' : ∀ z ∈ x :: before, z.Shows address bit false :=
              List.forall_mem_cons.mpr ⟨⟨w, brings, clear⟩, unset⟩
            exact ⟨x :: before, y, rfl, Nat.succ_lt_succ most, unset', set⟩

/-- Polls that do not complete end with a failure, or there are as many as there may be. -/
theorem Breaks.of_await {address : Int} {bit : Fin 32} {n : Nat} {xs : List Exchange}
    (h : (await address bit (some n)).Breaks xs) :
    (∃ before x, xs = before ++ [x] ∧ x.Fails) ∨
      xs.length = n + 1 ∧ ∀ y ∈ xs, y.Shows address bit false := by
  induction xs generalizing n with
  | nil => cases h
  | cons x xs ih =>
      cases h with
      | last asks after =>
          have read : x.request = .read address := (Option.some.inj asks).symm
          cases hw : x.reply.word? with
          | none => exact .inl ⟨[], x, rfl, .inl ⟨address, read, hw⟩⟩
          | some w =>
              rw [await, after_poll, hw] at after
              obtain ⟨clear, hf⟩ := behindPoll_eq_none after
              cases n with
              | zero => exact .inr ⟨rfl, by simpa using ⟨w, ⟨read, hw⟩, clear⟩⟩
              | succ n => cases hf
      | step asks after rest =>
          obtain ⟨w, hw, goes⟩ := Option.bind_eq_some_iff.mp after
          have brings : x.Brings address w := ⟨(Option.some.inj asks).symm, hw⟩
          rcases behindPoll_eq_some goes with ⟨set, rfl⟩ | ⟨clear, fewer, hf, rfl⟩
          · exact absurd rest not_breaks_done
          · cases n with
            | zero => cases hf
            | succ n =>
                obtain rfl := Option.some.inj hf
                rcases ih rest with ⟨before, y, rfl, fails⟩ | ⟨most, unset⟩
                · exact .inl ⟨x :: before, y, rfl, fails⟩
                · refine .inr ⟨by simp [most], ?_⟩
                  exact List.forall_mem_cons.mpr ⟨⟨w, brings, clear⟩, unset⟩

/-! ## Stopping short -/

section Short

variable {place : Int} {bit n : Nat} {xs : List Exchange}

theorem Breaks.short_of_put {address value : Int} (h : (put address value).Breaks xs) :
    StopsShort place bit n xs := by
  obtain ⟨x, rfl, asked, untaken⟩ := h.of_put
  exact .inl ⟨[], x, rfl, .inr ⟨address, value, asked, untaken⟩⟩

theorem Breaks.short_of_get {address : Int} (h : (get address).Breaks xs) :
    StopsShort place bit n xs := by
  obtain ⟨x, rfl, asked, unread⟩ := h.of_get
  exact .inl ⟨[], x, rfl, .inl ⟨address, asked, unread⟩⟩

theorem Breaks.short_of_await {b : Fin 32} (h : (await place b (some n)).Breaks xs) :
    StopsShort place b (n + 1) xs := by
  rcases h.of_await with fails | ⟨most, clear⟩
  · exact .inl fails
  · exact .inr ⟨[], xs, rfl, most, clear⟩

theorem Breaks.short_of_bind {p : Protocol α} {k : α → Protocol β} (h : (p >>= k).Breaks xs)
    (first : ∀ {ys}, p.Breaks ys → StopsShort place bit n ys)
    (second : ∀ {a ys}, (k a).Breaks ys → StopsShort place bit n ys) : StopsShort place bit n xs := by
  rcases h.of_bind with broken | ⟨ahead, ys, a, rfl, -, broken⟩
  · exact first broken
  · exact (second broken).append_left ahead

end Short

/-! ## The parts of resuming -/

/-- The exchanges select register 15 and find `pc` in it, and the word `w` at its instruction. -/
def Locates (xs : List Exchange) (pc w : Word) : Prop :=
  ∃ select polls read fetch, xs = select :: polls ++ [read, fetch] ∧
    select.Puts 0xE000EDF4 15 ∧ PollsFor 0xE000EDF0 16 10 polls ∧
    read.Brings 0xE000EDF8 pc ∧ fetch.Brings (pc &&& 0xFFFFFFFC#32).toNat w

/-- The exchanges move the program counter behind a breakpoint, and do nothing where there is none. -/
def Passes (xs : List Exchange) (pc w : Word) : Prop :=
  if IsBreakpointAt pc w then
    ∃ move select polls, xs = move :: select :: polls ∧
      move.Puts 0xE000EDF8 ((pc.toNat + 2) % 0x100000000) ∧ select.Puts 0xE000EDF4 0x1000F ∧
      PollsFor 0xE000EDF0 16 10 polls
  else xs = []

theorem Completes.locates {xs : List Exchange} {pc w : Word}
    (whole : locating.Completes xs (pc, w)) : Locates xs pc w := by
  obtain ⟨_, _, _, rfl, selects, rest⟩ := whole.of_bind
  obtain ⟨polls, _, _, rfl, ready, rest⟩ := rest.of_bind
  obtain ⟨_, _, found, rfl, reads, rest⟩ := rest.of_bind
  obtain ⟨_, fetches, same⟩ := completes_map.mp rest
  cases same
  obtain ⟨select, rfl, selected⟩ := selects.of_put
  obtain ⟨read, rfl, brings⟩ := reads.of_get
  obtain ⟨fetch, rfl, fetched⟩ := fetches.of_get
  exact ⟨select, polls, read, fetch, by simp, selected, ready.pollsFor, brings, fetched⟩

theorem Completes.passes {xs : List Exchange} {pc w : Word} {u : Unit}
    (whole : (passing pc w).Completes xs u) : Passes xs pc w := by
  unfold passing at whole
  unfold Passes
  split at whole
  · next isBreakpoint =>
      obtain ⟨_, _, _, rfl, moves, rest⟩ := whole.of_bind
      obtain ⟨_, polls, _, rfl, selects, ready⟩ := rest.of_bind
      obtain ⟨move, rfl, moved⟩ := moves.of_put
      obtain ⟨select, rfl, selected⟩ := selects.of_put
      rw [if_pos isBreakpoint]
      exact ⟨move, select, polls, rfl, moved, selected, ready.pollsFor⟩
  · next other =>
      rw [if_neg other]
      exact whole.of_done.1

/-- What is written behind the program counter that is read: at a breakpoint its move, and in any case
the order to run. -/
def resumption (pc w : Word) : List (Int × Int) :=
  if IsBreakpointAt pc w then
    [(0xE000EDF8, (pc.toNat + 2) % 0x100000000), (0xE000EDF4, 0x1000F), (0xE000EDF0, 0xA05F0001)]
  else [(0xE000EDF0, 0xA05F0001)]

theorem Passes.writes_append {xs : List Exchange} {x : Exchange} {pc w : Word} (h : Passes xs pc w)
    (last : x.request = .write 0xE000EDF0 0xA05F0001) :
    writes (xs ++ [x]) = resumption pc w := by
  have runs : x.write? = some (0xE000EDF0, 0xA05F0001) := by simp [Exchange.write?, last]
  unfold Passes at h
  unfold writes resumption
  by_cases isBreakpoint : IsBreakpointAt pc w
  · rw [if_pos isBreakpoint] at h ⊢
    obtain ⟨move, select, polls, rfl, moved, selected, ready⟩ := h
    have silent : polls.filterMap Exchange.write? = [] := writes_of_pollsFor ready
    simp [moved.write?, selected.write?, silent, runs]
  · rw [if_neg isBreakpoint] at h ⊢
    subst h
    simp [runs]

theorem Breaks.short_of_locating {xs : List Exchange} (h : locating.Breaks xs) :
    StopsShort 0xE000EDF0 16 10 xs := by
  refine h.short_of_bind Breaks.short_of_put fun h => ?_
  refine h.short_of_bind Breaks.short_of_await fun h => ?_
  refine h.short_of_bind Breaks.short_of_get fun h => ?_
  exact h.short_of_bind Breaks.short_of_get fun done => absurd done not_breaks_done

theorem Breaks.short_of_passing {xs : List Exchange} {pc w : Word} (h : (passing pc w).Breaks xs) :
    StopsShort 0xE000EDF0 16 10 xs := by
  unfold passing at h
  split at h
  · refine h.short_of_bind Breaks.short_of_put fun h => ?_
    exact h.short_of_bind Breaks.short_of_put Breaks.short_of_await
  · exact absurd h not_breaks_done

def SparesRun (request : Request) : Prop :=
  ∀ value, request ≠ .write 0xE000EDF0 value

theorem sparesRun_read (address : Int) : SparesRun (.read address) := by
  intro value same
  cases same

theorem sparesRun_write {address : Int} (other : address ≠ 0xE000EDF0) (value : Int) :
    SparesRun (.write address value) := by
  intro value' same
  exact other (Request.write.inj same).1

theorem locating_sparesRun : locating.AsksOnly SparesRun := by
  have reads {address : Int} : (get address).AsksOnly SparesRun := asksOnly_get (sparesRun_read _)
  exact .bind (asksOnly_put (sparesRun_write (by decide) _)) fun _ =>
    .bind (asksOnly_await (sparesRun_read _)) fun _ =>
    .bind reads fun _ => .bind reads fun _ => trivial

theorem passing_sparesRun (pc w : Word) : (passing pc w).AsksOnly SparesRun := by
  unfold passing
  split
  · exact .bind (asksOnly_put (sparesRun_write (by decide) _)) fun _ =>
      .bind (asksOnly_put (sparesRun_write (by decide) _)) fun _ =>
      asksOnly_await (sparesRun_read _)
  · trivial

end Protocol

namespace Core

open Protocol

/-- A core is resumed by the last request, when its program counter has been found and, at a breakpoint,
moved behind it. If something fails before that, or a transfer is not complete in ten polls, the core is
not resumed. -/
theorem resume_behind_breakpoint (core : Core) (c : Connection) :
    let course := core.resume.run c
    let xs := exchanges course.events
    (∃ pc w located passed last, xs = located ++ passed ++ [last] ∧
      Locates located pc w ∧ Passes passed pc w ∧ last.request = .write 0xE000EDF0 0xA05F0001 ∧
      writes (passed ++ [last]) = resumption pc w ∧
      (course.result = .ok () ↔ last.reply.isTaken = true)) ∨
    (∃ fault, course.result = .error fault) ∧
      (∀ x ∈ xs, ∀ value, x.request ≠ .write 0xE000EDF0 value) ∧ StopsShort 0xE000EDF0 16 10 xs := by
  intro course xs
  have pursues := core.resume_pursues
  cases h : course.result with
  | ok u =>
      have complete := (pursues.completes c u).mp h
      rw [resuming_eq] at complete
      obtain ⟨located, rest, ⟨pc, w⟩, split, locates, complete⟩ := complete.of_bind
      obtain ⟨passed, final, _, rfl, passes, runs⟩ := complete.of_bind
      obtain ⟨last, rfl, asked, taken⟩ := runs.of_put
      refine .inl ⟨pc, w, located, passed, last, by simpa using split, locates.locates, passes.passes,
        asked, passes.passes.writes_append asked, ?_⟩
      simp [taken]
  | error fault =>
      have broken := pursues.breaks c fault h
      have failed : ∃ cause, (Except.error fault : Except Fault Unit) = .error cause := ⟨fault, rfl⟩
      rw [resuming_eq] at broken
      rcases broken.of_bind with broken | ⟨located, rest, ⟨pc, w⟩, split, locates, broken⟩
      · exact .inr ⟨failed, broken.begins.mem_allowed locating_sparesRun, broken.short_of_locating⟩
      rcases broken.of_bind with broken | ⟨passed, final, _, rfl, passes, broken⟩
      · have spared : ∀ x ∈ located ++ rest, SparesRun x.request :=
          List.forall_mem_append.mpr ⟨locates.begins.mem_allowed locating_sparesRun,
            broken.begins.mem_allowed (passing_sparesRun pc w)⟩
        have short := broken.short_of_passing.append_left located
        rw [← split] at spared short
        exact .inr ⟨failed, spared, short⟩
      · obtain ⟨last, rfl, asked, untaken⟩ := broken.of_put
        refine .inl ⟨pc, w, located, passed, last, by simpa using split, locates.locates, passes.passes,
          asked, passes.passes.writes_append asked, ?_⟩
        simp [untaken]

end Core

end TickBound
