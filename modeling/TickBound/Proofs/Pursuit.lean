import TickBound.Proofs.Follows

/-!
# Activities that give up nothing

An activity that pursues a protocol stops ahead of its end only at a reply that the protocol does not go
on from. So a run without such a reply is a complete one.
-/

namespace TickBound

namespace Protocol

variable {α β : Type}

/-- The exchanges are a run of the protocol up to a reply that it does not go on from. -/
inductive Breaks : Protocol α → List Exchange → Prop where
  | last {p : Protocol α} {x : Exchange} :
      p.asks = some x.request → p.after x.reply = none → Breaks p [x]
  | step {p q : Protocol α} {x : Exchange} {xs : List Exchange} :
      p.asks = some x.request → p.after x.reply = some q → Breaks q xs → Breaks p (x :: xs)

theorem Breaks.begins {p : Protocol α} {xs : List Exchange} (h : p.Breaks xs) : p.Begins xs := by
  induction h with
  | last asks => exact .last asks
  | step asks after _ ih => exact .step asks after ih

theorem Breaks.bind_left {p : Protocol α} {xs : List Exchange} (first : p.Breaks xs)
    (k : α → Protocol β) : (p >>= k).Breaks xs := by
  induction first with
  | last asks after => exact .last (asks_bind asks k) (by rw [after_bind asks, after]; rfl)
  | step asks after _ ih => exact .step (asks_bind asks k) (by rw [after_bind asks, after]; rfl) ih

theorem Breaks.bind {p : Protocol α} {k : α → Protocol β} {xs ys : List Exchange} {a : α}
    (first : p.Completes xs a) (second : (k a).Breaks ys) : (p >>= k).Breaks (xs ++ ys) := by
  induction first with
  | done a => exact second
  | step asks after _ ih =>
      exact .step (asks_bind asks k) (by rw [after_bind asks, after]; rfl) (ih second)

theorem Breaks.of_bind {p : Protocol α} {k : α → Protocol β} {zs : List Exchange}
    (whole : (p >>= k).Breaks zs) :
    p.Breaks zs ∨ ∃ xs ys a, zs = xs ++ ys ∧ p.Completes xs a ∧ (k a).Breaks ys := by
  induction zs generalizing p with
  | nil => cases whole
  | cons x zs ih =>
      cases hp : p.asks with
      | none =>
          obtain ⟨a, rfl⟩ := eq_done_of_asks hp
          exact .inr ⟨[], x :: zs, a, rfl, .done a, whole⟩
      | some request =>
          cases whole with
          | last asks after =>
              rw [asks_bind hp] at asks
              rw [after_bind hp, Option.map_eq_none_iff] at after
              exact .inl (.last (hp.trans asks) after)
          | step asks after rest =>
              rw [asks_bind hp] at asks
              rw [after_bind hp] at after
              obtain ⟨q, hq, rfl⟩ := Option.map_eq_some_iff.mp after
              rcases ih rest with broken | ⟨xs, ys, a, rfl, first, second⟩
              · exact .inl (.step (hp.trans asks) hq broken)
              · exact .inr ⟨x :: xs, ys, a, rfl, .step (hp.trans asks) hq first, second⟩

end Protocol

namespace Act

variable {α β : Type}

/-- The activity follows the protocol, and without a result its last reply is one that the protocol does
not go on from. -/
structure Pursues (act : Act Connection α) (protocol : Protocol α) : Prop
    extends act.Follows protocol where
  breaks : ∀ c fault, (act.run c).result = .error fault →
    protocol.Breaks (exchanges (act.run c).events)

namespace Pursues

theorem pure (a : α) : (Pure.pure a : Act Connection α).Pursues (Pure.pure a) where
  toFollows := .pure a
  breaks := by
    rintro c fault ⟨⟩

theorem bind {act : Act Connection α} {next : α → Act Connection β} {p : Protocol α}
    {k : α → Protocol β} (first : act.Pursues p) (second : ∀ a, (next a).Pursues (k a)) :
    (act >>= next).Pursues (p >>= k) where
  toFollows := first.toFollows.bind fun a => (second a).toFollows
  breaks c fault failed := by
    cases h : (act.run c).result with
    | ok a =>
        rw [run_bind_of_ok h] at failed ⊢
        rw [exchanges_append]
        exact .bind ((first.completes c a).mp h) ((second a).breaks _ fault failed)
    | error cause =>
        rw [run_bind_of_error h]
        exact (first.breaks c cause h).bind_left k

theorem silent {act : Act Connection α} {next : α → Act Connection β} {p : Protocol β}
    (h : act.IsSilent) (second : ∀ a, (next a).Pursues p) : (act >>= next).Pursues p where
  toFollows := .silent h fun a => (second a).toFollows
  breaks c fault failed := by
    obtain ⟨a, ok⟩ := h.result c
    rw [run_bind_of_ok ok] at failed ⊢
    rw [exchanges_append, h.exchanges]
    exact (second a).breaks _ fault failed

theorem ite {c d : Prop} [Decidable c] [Decidable d] {act other : Act Connection α}
    {p q : Protocol α} (same : c ↔ d) (pos : c → act.Pursues p) (neg : ¬ c → other.Pursues q) :
    (if c then act else other).Pursues (if d then p else q) :=
  Act.ite_related same pos neg

/-- A first read: the activity gives up exactly where the protocol does not go on from the word. -/
theorem read {p : Protocol α} {address : Int} {next : Word → Option (Protocol α)}
    {k : Word → Act Connection α} (asks : p.asks = some (.read address))
    (after : ∀ reply, p.after reply = reply.word?.bind next)
    (step : ∀ w q, next w = some q → (k w).Pursues q) (last : ∀ w, next w = none → (k w).GivesUp) :
    (Session.readWord address >>= k).Pursues p where
  toFollows := .read asks after (fun w q hq => (step w q hq).toFollows) last
  breaks c fault failed := by
    cases hw : c.link.next.1.word? with
    | none =>
        rw [run_bind, Session.readWord_of_unread hw]
        exact .last asks (by rw [after, hw, Option.bind_none])
    | some w =>
        have goes : p.after c.link.next.1 = next w := by rw [after, hw, Option.bind_some]
        rw [run_bind, Session.readWord_of_word hw, Course.follow_ok] at failed ⊢
        rw [exchanges_append, exchanges_sent]
        cases hn : next w with
        | none =>
            rw [(last w hn).exchanges]
            exact .last asks (goes.trans hn)
        | some q => exact .step asks (goes.trans hn) ((step w q hn).breaks _ fault failed)

theorem readWord (address : Int) : (Session.readWord address).Pursues (.get address) := by
  rw [← bind_pure (Session.readWord address)]
  have after (reply : Reply) :
      (Protocol.get address).after reply = reply.word?.bind fun w => some (.done w) :=
    Option.map_eq_bind
  refine read rfl after ?_ ?_
  · rintro w q ⟨⟩
    exact pure w
  · rintro w ⟨⟩

theorem writeWord (address value : Int) :
    (Session.writeWord address value).Pursues (.put address value) where
  toFollows := .writeWord address value
  breaks c fault failed := by
    cases h : c.link.next.1.isTaken with
    | true =>
        rw [Session.writeWord_of_taken h] at failed
        cases failed
    | false =>
        have stops : (Protocol.put address value).after c.link.next.1 = none :=
          if_neg (Bool.eq_false_iff.mp h)
        rw [Session.writeWord_of_untaken h]
        exact .last rfl stops

/-- One poll, and then what comes behind the polls, or more of them, or none because it was the last. -/
theorem poll {address : Int} {bit : Fin 32} {more : Option Nat} {next : Protocol α}
    {k : Word → Act Connection α}
    (found : ∀ w : Word, w.getLsbD bit = true → (k w).Pursues next)
    (again : ∀ w : Word, w.getLsbD bit = false → ∀ fewer, Protocol.fewer? more = some fewer →
      (k w).Pursues (.poll address bit fewer next))
    (last : ∀ w : Word, w.getLsbD bit = false → Protocol.fewer? more = none → (k w).GivesUp) :
    (Session.readWord address >>= k).Pursues (.poll address bit more next) := by
  refine read rfl (Protocol.after_poll address bit more next) (fun w q hq => ?_) (fun w hw => ?_)
  · rcases Protocol.behindPoll_eq_some hq with ⟨set, rfl⟩ | ⟨clear, fewer, hf, rfl⟩
    · exact found w set
    · exact again w clear fewer hf
  · obtain ⟨clear, hf⟩ := Protocol.behindPoll_eq_none hw
    exact last w clear hf

end Pursues

end Act

end TickBound
