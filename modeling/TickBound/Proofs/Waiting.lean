import TickBound.Proofs.Follows

/-!
# Waiting for a halt

A wait polls the core until something decides it, which is looked for in a fixed order: a poll that
fails, a core that is halted, a deadline that has passed when the poll comes back. Between polls it
pauses, so a deadline that passes during a pause is noticed one poll later. A link runs out of replies,
and then the poll fails; that ends every wait, whatever its clock shows.
-/

namespace TickBound

/-! ## Polls -/

namespace Link

variable {link : Link} {late : Fault} {deadline : Float}

def reply (link : Link) (i : Nat) : Reply :=
  (link.answers.getD i exhausted).reply

/-- The link when a request has come back and a pause has been made. -/
def paused (link : Link) : Link :=
  { link.next.2 with clock := link.next.2.clock + Core.pollInterval }

/-- What the clock shows right behind poll number `i`, with a pause between any two. -/
def pollClock (link : Link) : Nat → Float
  | 0 => link.clock + link.tick + (link.answers.getD 0 exhausted).took
  | i + 1 =>
      link.pollClock i + Core.pollInterval + link.tick + (link.answers.getD (i + 1) exhausted).took

/-- What poll number `i` decides, if it decides anything. -/
def verdict? (link : Link) (late : Fault) (deadline : Float) (i : Nat) : Option (Except Fault Unit) :=
  match (link.reply i).word? with
  | none => some (.error ((link.reply i).readFault Register.dhcsr))
  | some w =>
      if w.getLsbD 17 then some (.ok ())
      else if deadline ≤ link.pollClock i then some (.error late)
      else none

theorem verdict?_of_unread {i : Nat} (h : (link.reply i).word? = none) :
    link.verdict? late deadline i = some (.error ((link.reply i).readFault Register.dhcsr)) := by
  rw [verdict?, h]

theorem verdict?_of_word {i : Nat} {w : Word} (h : (link.reply i).word? = some w) :
    link.verdict? late deadline i =
      if w.getLsbD 17 then some (.ok ())
      else if deadline ≤ link.pollClock i then some (.error late) else none := by
  rw [verdict?, h]

theorem next_eq (link : Link) :
    link.next = (link.reply 0, ⟨link.answers.drop 1, link.pollClock 0, link.tick⟩) := by
  obtain ⟨answers, clock, tick⟩ := link
  cases answers with
  | nil => rfl
  | cons answer more => rfl

theorem getD_paused (link : Link) (i : Nat) :
    link.paused.answers.getD i exhausted = link.answers.getD (i + 1) exhausted := by
  rw [paused, next_eq]
  simp [List.getD_eq_getElem?_getD]

theorem reply_paused (link : Link) (i : Nat) : link.paused.reply i = link.reply (i + 1) :=
  congrArg Answer.reply (link.getD_paused i)

theorem pollClock_paused (link : Link) (i : Nat) : link.paused.pollClock i = link.pollClock (i + 1) := by
  induction i with
  | zero =>
      rw [pollClock, getD_paused, paused, next_eq]
      rfl
  | succ i ih =>
      rw [pollClock, ih, getD_paused, paused, next_eq]
      rfl

/-- Behind a pause the polls are numbered from the next one on. -/
theorem verdict?_paused (i : Nat) :
    link.paused.verdict? late deadline i = link.verdict? late deadline (i + 1) := by
  rw [verdict?, verdict?, reply_paused, pollClock_paused]

/-- Without replies the next poll fails. -/
theorem reply_of_exhausted (h : link.answers = []) : (link.reply 0).word? = none := by
  rw [reply, h]
  rfl

end Link

namespace Connection

def polled (c : Connection) (i : Nat) : Event :=
  .requested c.session.url (.read Register.dhcsr) c.session.timeout (c.link.reply i)

def paused (c : Connection) : Connection :=
  { c with link := c.link.paused }

/-- Polls up to number `i`, with a pause between any two. -/
def polls (c : Connection) (i : Nat) : List Event :=
  (List.range i).flatMap (fun j => [c.polled j, .slept Core.pollInterval]) ++ [c.polled i]

def behindPoll (c : Connection) (i : Nat) : Connection :=
  ⟨⟨c.link.answers.drop (i + 1), c.link.pollClock i, c.link.tick⟩, c.session⟩

theorem polled_paused (c : Connection) (i : Nat) : c.paused.polled i = c.polled (i + 1) := by
  rw [polled, polled, ← Link.reply_paused]
  rfl

theorem polls_succ (c : Connection) (i : Nat) :
    c.polls (i + 1) = c.polled 0 :: .slept Core.pollInterval :: c.paused.polls i := by
  simp [polls, List.range_succ_eq_map, List.flatMap_map, polled_paused]

theorem behind_eq (c : Connection) : c.behind = c.behindPoll 0 := by
  rw [behind, c.link.next_eq]
  rfl

theorem behindPoll_succ (c : Connection) (i : Nat) : c.behindPoll (i + 1) = c.paused.behindPoll i := by
  have clock := c.link.pollClock_paused i
  rw [behindPoll, behindPoll, paused, clock, Link.paused, c.link.next_eq]
  simp [Nat.add_comm]

end Connection

namespace Core

variable {late : Fault} {deadline : Float} {c : Connection}

theorem isHalted_of_word {w : Word} (h : (c.link.reply 0).word? = some w) :
    isHalted.run c = ⟨.ok (w.getLsbD 17), [c.polled 0], c.behind⟩ := by
  have came : c.link.next.1 = c.link.reply 0 := congrArg Prod.fst c.link.next_eq
  rw [isHalted, Act.run_bind, Session.readWord_of_word (came ▸ h), Course.follow_ok, Connection.polled,
    ← came]
  rfl

theorem isHalted_of_unread (h : (c.link.reply 0).word? = none) :
    isHalted.run c = ⟨.error ((c.link.reply 0).readFault Register.dhcsr), [c.polled 0], c.behind⟩ := by
  have came : c.link.next.1 = c.link.reply 0 := congrArg Prod.fst c.link.next_eq
  rw [isHalted, Act.run_bind, Session.readWord_of_unread (came ▸ h), Course.follow_error,
    Connection.polled, ← came]
  rfl

/-- One turn of a wait: either the poll decides, or there is a pause and the wait goes on. -/
theorem pollHalt_succ (late : Fault) (deadline : Float) (budget : Nat) (c : Connection) :
    (pollHalt late deadline (budget + 1)).run c =
      match c.link.verdict? late deadline 0 with
      | some result => ⟨result, [c.polled 0], c.behind⟩
      | none =>
          let rest := (pollHalt late deadline budget).run c.paused
          ⟨rest.result, c.polled 0 :: .slept pollInterval :: rest.events, rest.final⟩ := by
  rw [pollHalt, Act.run_bind]
  cases read : (c.link.reply 0).word? with
  | none => rw [isHalted_of_unread read, Course.follow_error, Link.verdict?_of_unread read]
  | some w =>
      rw [isHalted_of_word read, Course.follow_ok, Link.verdict?_of_word read]
      by_cases bit : w.getLsbD 17 = true
      · rw [if_pos bit, if_pos bit]
        rfl
      · have now : (Connection.onLink Link.now).run c.behind =
            ⟨.ok (c.link.pollClock 0), [], c.behind⟩ := by
          rw [c.behind_eq]
          rfl
        rw [if_neg bit, if_neg bit, Act.run_bind, now, Course.follow_ok]
        by_cases passed : deadline ≤ c.link.pollClock 0
        · rw [if_pos passed, if_pos passed]
          rfl
        · rw [if_neg passed, if_neg passed]
          rfl

/-- Without replies there is one poll, and it fails. -/
theorem pollHalt_of_exhausted (none : c.link.answers = []) (late : Fault) (deadline : Float)
    (budget : Nat) :
    (pollHalt late deadline budget).run c =
      ⟨.error ((c.link.reply 0).readFault Register.dhcsr), [c.polled 0], c.behind⟩ := by
  have unread := isHalted_of_unread (Link.reply_of_exhausted none)
  cases budget with
  | zero => rw [pollHalt, Act.run_bind, unread, Course.follow_error]
  | succ budget => rw [pollHalt, Act.run_bind, unread, Course.follow_error]

/-- With a budget for all replies, polling ends at the first poll that decides. -/
theorem pollHalt_decided (late : Fault) (deadline : Float) (budget : Nat) (c : Connection)
    (enough : c.link.answers.length ≤ budget) :
    let course := (pollHalt late deadline budget).run c
    ∃ i ≤ c.link.answers.length, (∀ j < i, c.link.verdict? late deadline j = none) ∧
      c.link.verdict? late deadline i = some course.result ∧ course.events = c.polls i ∧
      course.final = c.behindPoll i := by
  -- a poll that decides nothing has taken a reply, so the budget goes down with the replies
  induction budget generalizing c with
  | zero =>
      have none := List.length_eq_zero_iff.mp (Nat.le_zero.mp enough)
      have unread := Link.reply_of_exhausted none
      intro course
      have run : course = _ := pollHalt_of_exhausted none late deadline 0
      rw [run]
      refine ⟨0, Nat.zero_le _, fun j hj => absurd hj (Nat.not_lt_zero j), ?_, rfl, ?_⟩
      · exact Link.verdict?_of_unread unread
      · exact c.behind_eq
  | succ budget ih =>
      intro course
      have run : course = _ := pollHalt_succ late deadline budget c
      cases decided : c.link.verdict? late deadline 0 with
      | some result =>
          rw [run, decided]
          exact ⟨0, Nat.zero_le _, fun j hj => absurd hj (Nat.not_lt_zero j), decided, rfl, c.behind_eq⟩
      | none =>
          have left : c.link.answers ≠ [] := fun none => by
            rw [Link.verdict?_of_unread (Link.reply_of_exhausted none)] at decided
            cases decided
          have fewer : c.paused.link.answers.length + 1 = c.link.answers.length := by
            change c.link.answers.tail.length + 1 = _
            rw [List.length_tail, Nat.sub_add_cancel (List.length_pos_iff.mpr left)]
          obtain ⟨i, inside, before, last, events, final⟩ := ih c.paused (by omega)
          rw [run, decided]
          refine ⟨i + 1, by omega, ?_, ?_, ?_, ?_⟩
          · intro j hj
            cases j with
            | zero => exact decided
            | succ j => exact (Link.verdict?_paused j).symm.trans (before j (by omega))
          · exact (Link.verdict?_paused i).symm.trans last
          · rw [c.polls_succ, ← events]
          · rw [c.behindPoll_succ, ← final]

/-- A wait is decided by the first poll that fails, shows a halt or comes back behind the deadline, looked
at in this order. Up to it there is one pause between any two polls, and behind it there is nothing; every
link comes to such a poll, at the latest when it has no more replies. A wait that is too long names the
core unless its number is too long to be shown. -/
theorem waitHalted_decided (core : Core) (timeout : Float) (c : Connection) :
    let course := (core.waitHalted timeout).run c
    let late : Fault :=
      if Number.fitsDecimal core.index then .haltTimeout core.index timeout else .outside .decimalTooLong
    let verdict? := c.link.verdict? late (c.link.clock + timeout)
    ∃ i ≤ c.link.answers.length, (∀ j < i, verdict? j = none) ∧ verdict? i = some course.result ∧
      course.events = c.polls i ∧ course.final = c.behindPoll i := by
  intro course late
  have start : course = (pollHalt late (c.link.clock + timeout) c.link.answers.length).run c := rfl
  rw [start]
  exact pollHalt_decided _ _ _ c (Nat.le_refl _)

end Core

end TickBound
