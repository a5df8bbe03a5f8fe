import TickBound.Proofs.Sampling

/-!
# Where the counter is read

While a sample is taken the counter is read at two places of the protocol only, both right behind a reply
that shows the core halted. The one other request for its word is the fetch of the instruction that the
core halted at, when the program counter points into the counter itself.
-/

namespace TickBound

namespace Exchange

def ReadsCounter (x : Exchange) : Prop :=
  x.request = .read 0xE000E018

/-- The exchange brings a word from an address. -/
def Brings (x : Exchange) (address : Int) (w : Word) : Prop :=
  x.request = .read address ∧ x.reply.word? = some w

/-- The exchange shows the core halted: a word of DHCSR with bit 17. -/
def ShowsHalt (x : Exchange) : Prop :=
  ∃ w, x.Brings 0xE000EDF0 w ∧ w.getLsbD 17 = true

end Exchange

open Exchange

/-- What stands ahead of a request for the word of the counter. -/
inductive CounterDue : List Exchange → Prop where
  /-- The core has halted at the first marker, behind the reset. -/
  | first {ahead : List Exchange} {x : Exchange} :
      (∃ y ∈ ahead, y.request = .write 0xE000ED0C 0x05FA0004) → (∀ y ∈ ahead, ¬ y.ReadsCounter) →
        x.ShowsHalt → CounterDue (ahead ++ [x])
  /-- The core has halted at the second marker, resumed behind the first read. -/
  | second {ahead between : List Exchange} {c x : Exchange} :
      (∀ y ∈ ahead, ¬ y.ReadsCounter) → c.ReadsCounter →
        (∃ y ∈ between, y.request = .write 0xE000EDF0 0xA05F0001) →
          x.ShowsHalt → CounterDue (ahead ++ c :: between ++ [x])
  /-- The program counter points into the counter, and the instruction there is fetched. -/
  | fetch {ahead : List Exchange} {x : Exchange} {pc : Word} :
      x.Brings 0xE000EDF8 pc → pc &&& 0xFFFFFFFC#32 = 0xE000E018#32 → CounterDue (ahead ++ [x])

namespace Protocol

def SparesCounter (request : Request) : Prop :=
  request ≠ .read 0xE000E018

theorem sparesCounter_put (address value : Int) : (put address value).AsksOnly SparesCounter :=
  asksOnly_put (by simp [SparesCounter])

theorem sparesCounter_await (bit : Fin 32) (more : Option Nat) :
    (await 0xE000EDF0 bit more).AsksOnly SparesCounter :=
  asksOnly_await (by simp [SparesCounter])

theorem toFirstMarker_sparesCounter : toFirstMarker.AsksOnly SparesCounter := by
  have halts : halting.AsksOnly SparesCounter :=
    .bind (sparesCounter_put _ _) fun _ => sparesCounter_await _ _
  have clears : clearing.AsksOnly SparesCounter :=
    .bind (asksOnly_get (by simp [SparesCounter])) fun control =>
      .forM _ fun i _ => sparesCounter_put _ _
  have resets : resetting.AsksOnly SparesCounter := by
    refine .bind (asksOnly_get (by simp [SparesCounter])) fun demcr => ?_
    split
    · exact .bind (sparesCounter_put _ _) fun _ => .bind (sparesCounter_put _ _) fun _ =>
        sparesCounter_put _ _
    · exact .bind (sparesCounter_put _ _) fun _ => sparesCounter_put _ _
  exact .bind halts fun _ => .bind clears fun _ => .bind resets fun _ => sparesCounter_await _ _

theorem resetting_requires : resetting.Requires (.write 0xE000ED0C 0x05FA0004) := by
  refine .bind_right fun demcr => ?_
  split
  · exact .bind_right fun _ => .bind_right fun _ => requires_put _ _
  · exact .bind_right fun _ => requires_put _ _

theorem resuming_requires : resuming.Requires (.write 0xE000EDF0 0xA05F0001) := by
  refine .bind_right fun _ => .bind_right fun _ => .bind_right fun pc => .bind_right fun w => ?_
  split
  · exact .bind_right fun _ => requires_put _ _
  · exact requires_put _ _

/-- A complete run to the first marker is what has to stand ahead of the first read. -/
theorem counterDue_first {xs : List Exchange} {u : Unit} (complete : toFirstMarker.Completes xs u) :
    CounterDue xs := by
  have spared := complete.begins.mem_allowed toFirstMarker_sparesCounter
  obtain ⟨halt, _, _, rfl, _, complete⟩ := complete.of_bind
  obtain ⟨clear, _, _, rfl, _, complete⟩ := complete.of_bind
  obtain ⟨reset, _, _, rfl, resets, waits⟩ := complete.of_bind
  obtain ⟨y, hy, asked⟩ := resetting_requires _ _ resets
  obtain ⟨polls, x, w, rfl, read, word, set⟩ := waits.of_await
  simp only [← List.append_assoc] at spared ⊢
  refine .first ⟨y, by simp [hy], asked⟩ (fun z hz => ?_) ⟨w, ⟨read, word⟩, set⟩
  exact spared z (List.mem_append_left [x] hz)

/-- Between the markers nothing but the instruction that the core halted at is fetched. -/
theorem counterDue_between {past xs : List Exchange} (begun : toSecondMarker.Begins xs) :
    OnlyAfter ReadsCounter CounterDue past xs := by
  have spared : ∀ {α : Type} {p : Protocol α} {past xs : List Exchange},
      p.AsksOnly SparesCounter → p.Begins xs → OnlyAfter ReadsCounter CounterDue past xs :=
    fun only begun => .of_absent (begun.mem_allowed only)
  refine begun.onlyAfter_bind (fun xs resume => ?_) fun _ _ _ _ => spared (sparesCounter_await _ _)
  refine resume.onlyAfter_bind (fun _ => spared (sparesCounter_put _ _)) fun _ _ _ _ resume => ?_
  refine resume.onlyAfter_bind (fun _ => spared (sparesCounter_await _ _))
    fun _ _ _ _ resume => ?_
  refine resume.onlyAfter_bind (fun _ => spared (asksOnly_get (by simp [SparesCounter])))
    fun _ pc _ read resume => ?_
  obtain ⟨x, rfl, asked, word⟩ := read.of_get
  -- the one read whose address is not fixed
  refine resume.onlyAfter_bind (fun _ read => read.onlyAfter_get fun y asks counter => ?_)
    fun _ w _ _ resume => spared ?_ resume
  · have place := Request.read.inj (asks.symm.trans counter)
    exact .fetch ⟨asked, word⟩ (BitVec.eq_of_toNat_eq (by simpa using Int.ofNat.inj place))
  · have steps : (stepping pc).AsksOnly SparesCounter :=
      .bind (sparesCounter_put _ _) fun _ => .bind (sparesCounter_put _ _) fun _ =>
        sparesCounter_await _ _
    split
    · exact .bind steps fun _ => sparesCounter_put _ _
    · exact sparesCounter_put _ _

/-- A complete run to the second marker is what has to stand ahead of the second read. -/
theorem counterDue_second {ahead xs : List Exchange} {c : Exchange} {u : Unit}
    (spared : ∀ y ∈ ahead, ¬ y.ReadsCounter) (read : c.ReadsCounter)
    (complete : toSecondMarker.Completes xs u) : CounterDue (ahead ++ [c] ++ xs) := by
  obtain ⟨resume, _, _, rfl, resumes, complete⟩ := complete.of_bind
  obtain ⟨y, hy, asked⟩ := resuming_requires _ _ resumes
  obtain ⟨polls, x, w, rfl, shown⟩ := complete.of_await
  have between : ∃ z ∈ resume ++ polls, z.request = .write 0xE000EDF0 0xA05F0001 :=
    ⟨y, by simp [hy], asked⟩
  simpa using CounterDue.second spared read between ⟨w, ⟨shown.1, shown.2.1⟩, shown.2.2⟩

/-- The counter is read at its two places only, or fetched as an instruction. -/
theorem sampling_counterDue {xs : List Exchange} (begun : sampling.Begins xs) :
    OnlyAfter ReadsCounter CounterDue [] xs := by
  refine begun.onlyAfter_bind (fun xs first => ?_) fun xs _ ys first rest => ?_
  · exact .of_absent (first.mem_allowed toFirstMarker_sparesCounter)
  have spared := first.begins.mem_allowed toFirstMarker_sparesCounter
  refine rest.onlyAfter_bind (fun ys read => read.onlyAfter_get fun _ _ _ => counterDue_first first)
    fun ys w zs read rest => ?_
  obtain ⟨c, rfl, asked, -⟩ := read.of_get
  refine rest.onlyAfter_bind (fun zs between => counterDue_between between)
    fun zs _ ys between rest => ?_
  refine rest.onlyAfter_bind (fun ys read => read.onlyAfter_get fun _ _ _ => ?_)
    fun ys w zs _ done => ?_
  · exact counterDue_second spared asked between
  · obtain rfl := Begins.of_done done
    exact .of_absent (by simp)

end Protocol

namespace Sample

theorem take_begins (core : Core) (timeout : Float) (offset : Int) (c : Connection) :
    Protocol.sampling.Begins (exchanges ((take core timeout offset).run c).events) :=
  ((take_follows core timeout offset).begins c).of_map

theorem take_result {core : Core} {timeout : Float} {offset : Int} {c : Connection}
    {sample : Sample} :
    ((take core timeout offset).run c).result = .ok sample ↔
      ∃ words,
        Protocol.sampling.Completes (exchanges ((take core timeout offset).run c).events) words ∧
          sample = ofWords offset words :=
  ((take_follows core timeout offset).completes c sample).trans Protocol.completes_map

/-- Wherever it ends, the requests are the first ones of the protocol, and the counter is read in its
places only. There is a sample exactly when the protocol is complete. -/
theorem take_keeps_protocol (core : Core) (timeout : Float) (offset : Int) (c : Connection) :
    let course := (take core timeout offset).run c
    (∃ full words, Protocol.sampling.Completes full words ∧
      Protocol.IsStartOf (exchanges course.events) full) ∧
    OnlyAfter ReadsCounter CounterDue [] (exchanges course.events) ∧
    (∀ sample, course.result = .ok sample ↔
      ∃ words, Protocol.sampling.Completes (exchanges course.events) words ∧
        sample = ofWords offset words) ∧
    ∀ event ∈ course.events, c.session.Carries event := by
  have begun := take_begins core timeout offset c
  refine ⟨begun.isStartOf, Protocol.sampling_counterDue begun, fun sample => take_result, ?_⟩
  exact ((take_follows core timeout offset).isCarried c).2

def intoCounter : Reply := .answered 200 "\x7b\"data\": \"0xE000E018\"\x7d"

theorem word?_intoCounter : intoCounter.word? = some 0xE000E018#32 :=
  Reply.word?_answered (by decide +kernel)

/-- The fetch of an instruction reads the counter, too, and not behind a reply that shows a halt. -/
theorem take_fetches_counter :
    ¬ OnlyAfter ReadsCounter (fun past => ∃ ahead x, past = ahead ++ [x] ∧ x.ShowsHalt) []
      (exchanges ((take {} 30 0).run (promptly intoCounter ready ready)).events) := by
  rw [(take_promptly word?_intoCounter word?_ready word?_ready 30 0).2]
  intro only
  -- the fetch is right behind the word of the program counter
  obtain ⟨ahead, x, split, w, ⟨read, -⟩, -⟩ := only.at (i := 11) (by simp) rfl
  obtain rfl : x = ⟨.read 0xE000EDF8, intoCounter⟩ := by
    simpa using (congrArg List.getLast? split).symm
  simp at read

end Sample

end TickBound
