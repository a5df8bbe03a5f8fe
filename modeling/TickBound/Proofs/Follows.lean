import TickBound.Proofs.Requests

/-!
# Activities that follow a protocol

Following is kept by sequencing, so what a core does is compared with a protocol operation by operation:
a read and a write follow themselves, polls follow polls, and what sends no request does not count. All
that happens besides is that time passes and progress is reported.
-/

namespace TickBound

@[simp] theorem exchanges_sent (c : Connection) (request : Request) (events : List Event) :
    exchanges (c.sent request :: events) = ⟨request, c.link.next.1⟩ :: exchanges events := rfl

/-- What may happen while memory of the target is read and written over a session. -/
def Session.Carries (session : Session) : Event → Prop
  | .requested base request timeout _ =>
      base = session.url ∧ timeout = session.timeout ∧ request ≠ .reset
  | .slept _ => True
  | .noted _ _ _ => True
  | _ => False

namespace Act

variable {α β : Type}

def IsCarried (act : Act Connection α) : Prop :=
  act.Respects Connection.session Session.Carries

theorem isCarried_readWord (address : Int) : IsCarried (Session.readWord address) :=
  Session.readWord_respects id fun _ => ⟨rfl, rfl, by simp⟩

theorem isCarried_writeWord (address value : Int) : IsCarried (Session.writeWord address value) :=
  Session.writeWord_respects id fun _ => ⟨rfl, rfl, by simp⟩

/-- The activity sends the requests of the protocol up to some point, and has a result exactly when that
is the end. -/
structure Follows (act : Act Connection α) (protocol : Protocol α) : Prop where
  isCarried : act.IsCarried
  begins : ∀ c, protocol.Begins (exchanges (act.run c).events)
  completes : ∀ c a,
    (act.run c).result = .ok a ↔ protocol.Completes (exchanges (act.run c).events) a

structure IsSilent (act : Act Connection α) : Prop where
  isCarried : act.IsCarried
  result : ∀ c, ∃ a, (act.run c).result = .ok a
  exchanges : ∀ c, exchanges (act.run c).events = []

structure GivesUp (act : Act Connection α) : Prop where
  isCarried : act.IsCarried
  result : ∀ c, ∃ fault, (act.run c).result = .error fault
  exchanges : ∀ c, exchanges (act.run c).events = []

theorem isSilent_note (level : Level) (source : Source) (text : String) :
    IsSilent (note level source text) where
  isCarried := .emit fun _ => trivial
  result _ := ⟨(), rfl⟩
  exchanges _ := rfl

theorem isSilent_reads (f : Connection → α) : IsSilent (reads f) where
  isCarried := .reads f
  result c := ⟨f c, rfl⟩
  exchanges _ := rfl

theorem isSilent_now : IsSilent (Connection.onLink Link.now) where
  isCarried _ := ⟨rfl, by simp [Connection.onLink, Link.now]⟩
  result c := ⟨c.link.clock, rfl⟩
  exchanges _ := rfl

theorem isSilent_sleep (seconds : Float) : IsSilent (Connection.onLink (Link.sleep seconds)) where
  isCarried _ := ⟨rfl, by simp [Connection.onLink, Link.sleep, Session.Carries]⟩
  result _ := ⟨(), rfl⟩
  exchanges _ := rfl

theorem givesUp_fail (fault : Fault) : GivesUp (fail fault : Act Connection α) where
  isCarried := .fail fault
  result _ := ⟨fault, rfl⟩
  exchanges _ := rfl

/-- Alternatives under equivalent conditions are related as the activities and protocols are. -/
theorem ite_related {R : Act Connection α → Protocol α → Prop} {c d : Prop} [Decidable c]
    [Decidable d] {act other : Act Connection α} {p q : Protocol α} (same : c ↔ d) (pos : c → R act p)
    (neg : ¬ c → R other q) : R (if c then act else other) (if d then p else q) := by
  by_cases h : c
  · rw [if_pos h, if_pos (same.mp h)]
    exact pos h
  · rw [if_neg h, if_neg (fun hd => h (same.mpr hd))]
    exact neg h

namespace Follows

theorem pure (a : α) : (Pure.pure a : Act Connection α).Follows (Pure.pure a) where
  isCarried := .pure a
  begins _ := .nothing _
  completes _ b := by
    constructor
    · rintro ⟨⟩
      exact .done a
    · rintro ⟨⟩
      rfl

theorem of_givesUp {act : Act Connection α} {p : Protocol α} {request : Request}
    (h : act.GivesUp) (asks : p.asks = some request) : act.Follows p where
  isCarried := h.isCarried
  begins c := h.exchanges c ▸ .nothing p
  completes c a := by
    obtain ⟨fault, failed⟩ := h.result c
    rw [failed, h.exchanges]
    constructor
    · rintro ⟨⟩
    · intro complete
      cases asks.symm.trans complete.asks_of_nil

theorem bind {act : Act Connection α} {next : α → Act Connection β} {p : Protocol α}
    {k : α → Protocol β} (first : act.Follows p) (second : ∀ a, (next a).Follows (k a)) :
    (act >>= next).Follows (p >>= k) where
  isCarried := first.isCarried.bind fun a => (second a).isCarried
  begins c := by
    rw [run_bind]
    cases h : (act.run c).result with
    | ok a =>
        rw [Course.follow_of_ok h, exchanges_append]
        exact .bind ((first.completes c a).mp h) ((second a).begins _)
    | error fault =>
        rw [Course.follow_of_error h]
        exact (first.begins c).bind_left k
  completes c b := by
    rw [run_bind]
    cases h : (act.run c).result with
    | ok a =>
        have complete := (first.completes c a).mp h
        rw [Course.follow_of_ok h, exchanges_append, (second a).completes]
        constructor
        · exact complete.bind
        · intro whole
          -- the run of the first part ends where its exchanges are complete
          obtain ⟨xs, ys, a', same, complete', rest⟩ := whole.of_bind
          obtain ⟨-, rfl, rfl⟩ := complete.unique complete' same
          exact rest
    | error fault =>
        rw [Course.follow_of_error h]
        constructor
        · rintro ⟨⟩
        · intro whole
          -- a complete run of the first part would have given it a result
          obtain ⟨xs, ys, a, same, complete, -⟩ := whole.of_bind
          have begun := first.begins c
          rw [same] at begun
          obtain rfl := complete.nothing_left begun
          rw [List.append_nil] at same
          cases h.symm.trans ((first.completes c a).mpr (same ▸ complete))

theorem silent {act : Act Connection α} {next : α → Act Connection β} {p : Protocol β}
    (h : act.IsSilent) (second : ∀ a, (next a).Follows p) : (act >>= next).Follows p where
  isCarried := h.isCarried.bind fun a => (second a).isCarried
  begins c := by
    obtain ⟨a, ok⟩ := h.result c
    rw [run_bind, Course.follow_of_ok ok, exchanges_append, h.exchanges]
    exact (second a).begins _
  completes c b := by
    obtain ⟨a, ok⟩ := h.result c
    rw [run_bind, Course.follow_of_ok ok, exchanges_append, h.exchanges]
    exact (second a).completes _ b

theorem silent_last {act : Act Connection Unit} {next : Unit → Act Connection Unit}
    {p : Protocol Unit} (first : act.Follows p) (h : (next ()).IsSilent) :
    (act >>= next).Follows p := by
  rw [← p.bind_done]
  refine first.bind fun _ => ?_
  rw [← bind_pure (next ())]
  exact silent h fun _ => pure ()

theorem ite {c d : Prop} [Decidable c] [Decidable d] {act other : Act Connection α}
    {p q : Protocol α} (same : c ↔ d) (pos : c → act.Follows p) (neg : ¬ c → other.Follows q) :
    (if c then act else other).Follows (if d then p else q) :=
  Act.ite_related same pos neg

/-- A first read: what comes behind it follows what the protocol goes on with from the word, or gives up
where the protocol does not go on. -/
theorem read {p : Protocol α} {address : Int} {next : Word → Option (Protocol α)}
    {k : Word → Act Connection α} (asks : p.asks = some (.read address))
    (after : ∀ reply, p.after reply = reply.word?.bind next)
    (step : ∀ w q, next w = some q → (k w).Follows q) (last : ∀ w, next w = none → (k w).GivesUp) :
    (Session.readWord address >>= k).Follows p where
  isCarried := by
    refine (isCarried_readWord address).bind fun w => ?_
    cases h : next w with
    | none => exact (last w h).isCarried
    | some q => exact (step w q h).isCarried
  begins c := by
    rw [run_bind]
    cases hw : c.link.next.1.word? with
    | none =>
        rw [Session.readWord_of_unread hw]
        exact .last asks
    | some w =>
        rw [Session.readWord_of_word hw, Course.follow_ok, exchanges_append]
        cases hn : next w with
        | none =>
            rw [(last w hn).exchanges]
            exact .last asks
        | some q => exact .step asks (by rw [after, hw]; exact hn) ((step w q hn).begins _)
  completes c a := by
    rw [run_bind]
    cases hw : c.link.next.1.word? with
    | none =>
        rw [Session.readWord_of_unread hw]
        constructor
        · rintro ⟨⟩
        · intro h
          obtain ⟨-, q, goes, -⟩ := Protocol.completes_cons_iff.mp h
          rw [after, hw] at goes
          cases goes
    | some w =>
        rw [Session.readWord_of_word hw, Course.follow_ok, exchanges_append, exchanges_sent]
        cases hn : next w with
        | none =>
            obtain ⟨fault, failed⟩ := (last w hn).result c.behind
            rw [failed]
            constructor
            · rintro ⟨⟩
            · intro h
              obtain ⟨-, q, goes, -⟩ := Protocol.completes_cons_iff.mp h
              rw [after, hw, Option.bind_some, hn] at goes
              cases goes
        | some q =>
            have goes : p.after c.link.next.1 = some q := by rw [after, hw, Option.bind_some, hn]
            rw [(step w q hn).completes]
            constructor
            · exact .step asks goes
            · intro h
              obtain ⟨-, q', goes', rest⟩ := Protocol.completes_cons_iff.mp h
              rw [goes] at goes'
              cases goes'
              exact rest

theorem readWord (address : Int) : (Session.readWord address).Follows (.get address) := by
  rw [← bind_pure (Session.readWord address)]
  have after (reply : Reply) :
      (Protocol.get address).after reply = reply.word?.bind fun w => some (.done w) :=
    Option.map_eq_bind
  refine read rfl after ?_ ?_
  · rintro w q ⟨⟩
    exact pure w
  · rintro w ⟨⟩

theorem writeWord (address value : Int) :
    (Session.writeWord address value).Follows (.put address value) where
  isCarried := isCarried_writeWord address value
  begins c := by
    cases h : c.link.next.1.isTaken with
    | true =>
        rw [Session.writeWord_of_taken h]
        exact .last rfl
    | false =>
        rw [Session.writeWord_of_untaken h]
        exact .last rfl
  completes c u := by
    cases h : c.link.next.1.isTaken with
    | true =>
        rw [Session.writeWord_of_taken h]
        exact ⟨fun _ => .step rfl (if_pos h) (.done ()), fun _ => rfl⟩
    | false =>
        rw [Session.writeWord_of_untaken h]
        constructor
        · rintro ⟨⟩
        · intro complete
          obtain ⟨-, q, goes, -⟩ := Protocol.completes_cons_iff.mp complete
          change (if c.link.next.1.isTaken then _ else _) = some q at goes
          rw [h] at goes
          cases goes

/-- One poll, and then either what comes behind the polls or more of them. -/
theorem poll {address : Int} {bit : Fin 32} {more : Option Nat} {next : Protocol α}
    {k : Word → Act Connection α}
    (found : ∀ w : Word, w.getLsbD bit = true → (k w).Follows next)
    (again : ∀ w : Word, w.getLsbD bit = false → ∀ fewer, Protocol.fewer? more = some fewer →
      (k w).Follows (.poll address bit fewer next))
    (last : ∀ w : Word, w.getLsbD bit = false → Protocol.fewer? more = none → (k w).GivesUp) :
    (Session.readWord address >>= k).Follows (.poll address bit more next) := by
  refine read rfl (Protocol.after_poll address bit more next) (fun w q hq => ?_) (fun w hw => ?_)
  · rcases Protocol.behindPoll_eq_some hq with ⟨set, rfl⟩ | ⟨clear, fewer, hf, rfl⟩
    · exact found w set
    · exact again w clear fewer hf
  · obtain ⟨clear, hf⟩ := Protocol.behindPoll_eq_none hw
    exact last w clear hf

end Follows

end Act

end TickBound
