import TickBound.Proofs.Frame
import TickBound.Proofs.Protocol

/-!
# What comes of one request

A word is read or written, and the connection is set up again, with one request each. The reply decides
what comes of it: a result, or the fault that is named for this reply.
-/

namespace TickBound

def Connection.sent (c : Connection) (request : Request) : Event :=
  .requested c.session.url request c.session.timeout c.link.next.1

def Connection.behind (c : Connection) : Connection :=
  { c with link := c.link.next.2 }

/-! ## Faults of requests -/

namespace Reply

/-- What a read fails with if the reply brings no word. -/
def readFault (address : Int) : Reply → Fault
  | broken reason => .outside (.transport reason)
  | refused reason => .memory (.readFailed address reason)
  | answered status text =>
      if status ≠ 200 then .memory (.readFailed address text) else .memory (.readUnusable address text)

def writeFault (address : Int) : Reply → Fault
  | broken reason => .outside (.transport reason)
  | refused reason => .memory (.writeFailed address reason)
  | answered _ text => .memory (.writeFailed address text)

/-- What a read fails with is of the kind of such failures, unless the transport breaks down. -/
theorem kind?_readFault (reply : Reply) (address : Int) :
    (reply.readFault address).kind? = some .memory ∨
      ∃ reason, reply = .broken reason ∧ reply.readFault address = .outside (.transport reason) := by
  cases reply with
  | broken reason => exact .inr ⟨reason, rfl, rfl⟩
  | refused reason => exact .inl rfl
  | answered status text =>
      refine .inl ?_
      by_cases fine : status = 200
      · rw [readFault, if_neg (not_not_intro fine)]
        rfl
      · rw [readFault, if_pos fine]
        rfl

theorem kind?_writeFault (reply : Reply) (address : Int) :
    (reply.writeFault address).kind? = some .memoryWrite ∨
      ∃ reason, reply = .broken reason ∧ reply.writeFault address = .outside (.transport reason) := by
  cases reply with
  | broken reason => exact .inr ⟨reason, rfl, rfl⟩
  | refused | answered => exact .inl rfl

end Reply

namespace Session

/-! ## Words of memory -/

theorem run_transfer (request : Request) (c : Connection) :
    (transfer request).run c = ⟨.ok c.link.next.1, [c.sent request], c.behind⟩ := rfl

theorem readWord_of_word {c : Connection} {w : Word} (h : c.link.next.1.word? = some w)
    (address : Int) :
    (readWord address).run c = ⟨.ok w, [c.sent (.read address)], c.behind⟩ := by
  rw [readWord, Act.run_bind, run_transfer, Course.follow_ok]
  cases hr : c.link.next.1 with
  | refused reason => simp [hr, Reply.word?] at h
  | broken reason => simp [hr, Reply.word?] at h
  | answered status text =>
      rw [hr, Reply.word?] at h
      split at h
      · next ok => simp [ok, h]
      · cases h

theorem readWord_of_unread {c : Connection} (h : c.link.next.1.word? = none) (address : Int) :
    (readWord address).run c =
      ⟨.error (c.link.next.1.readFault address), [c.sent (.read address)], c.behind⟩ := by
  rw [readWord, Act.run_bind, run_transfer, Course.follow_ok]
  cases came : c.link.next.1 with
  | refused reason => rfl
  | broken reason => rfl
  | answered status text =>
      rw [came, Reply.word?] at h
      by_cases fine : status = 200
      · rw [if_pos fine] at h
        simp [fine, h, Reply.readFault]
      · simp [fine, Reply.readFault]

theorem writeWord_of_taken {c : Connection} (h : c.link.next.1.isTaken = true)
    (address value : Int) :
    (writeWord address value).run c = ⟨.ok (), [c.sent (.write address value)], c.behind⟩ := by
  rw [writeWord, Act.run_bind, run_transfer, Course.follow_ok]
  cases hr : c.link.next.1 with
  | refused reason => simp [hr, Reply.isTaken] at h
  | broken reason => simp [hr, Reply.isTaken] at h
  | answered status text =>
      have ok : status = 200 := by simpa [hr, Reply.isTaken] using h
      simp [ok]

theorem writeWord_of_untaken {c : Connection} (h : c.link.next.1.isTaken = false)
    (address value : Int) :
    (writeWord address value).run c =
      ⟨.error (c.link.next.1.writeFault address), [c.sent (.write address value)], c.behind⟩ := by
  rw [writeWord, Act.run_bind, run_transfer, Course.follow_ok]
  cases came : c.link.next.1 with
  | refused reason => rfl
  | broken reason => rfl
  | answered status text =>
      have other : status ≠ 200 := by simpa [came, Reply.isTaken] using h
      simp [other, Reply.writeFault]

section Frame

variable {κ : Type} (view : Session → κ) {allows : κ → Event → Prop} {address value : Int}

/-- A read leaves the session as it was, and all that happens is the request. -/
theorem readWord_respects (sent : ∀ c : Connection, allows (view c.session) (c.sent (.read address))) :
    (readWord address).Respects (fun c => view c.session) allows := by
  intro c
  cases word : c.link.next.1.word? with
  | some w =>
      rw [readWord_of_word word]
      exact ⟨rfl, by simpa using sent c⟩
  | none =>
      rw [readWord_of_unread word]
      exact ⟨rfl, by simpa using sent c⟩

theorem writeWord_respects
    (sent : ∀ c : Connection, allows (view c.session) (c.sent (.write address value))) :
    (writeWord address value).Respects (fun c => view c.session) allows := by
  intro c
  cases taken : c.link.next.1.isTaken with
  | true =>
      rw [writeWord_of_taken taken]
      exact ⟨rfl, by simpa using sent c⟩
  | false =>
      rw [writeWord_of_untaken taken]
      exact ⟨rfl, by simpa using sent c⟩

end Frame

/-! ## Setting up the connection -/

/-- The status that an attempt gets from a reply, or the fault that it ends with. -/
def answer (url : String) : Reply → Except Fault Json.Members
  | .broken reason => .error (.outside (.transport reason))
  | .refused reason => .error (.attach (.unreachable url reason))
  | .answered code text =>
      if code ≠ 200 then .error (.attach (.resetRefused text)) else statusIn url text

theorem answer_fine (url text : String) : answer url (.answered 200 text) = statusIn url text := by
  rw [answer, if_neg (not_not_intro rfl)]

theorem told_of_answer {url : String} {reply : Reply} {status : Json.Members}
    (h : answer url reply = .ok status) :
    ∃ text, reply = .answered 200 text ∧ statusIn url text = .ok status := by
  cases reply with
  | broken reason | refused reason => cases h
  | answered code text =>
      rw [answer] at h
      split at h
      · cases h
      · next fine => exact ⟨text, by rw [Decidable.not_not.mp fine], h⟩

theorem reconnect_of_answer {c : Connection} {status : Json.Members}
    (h : answer c.session.url c.link.next.1 = .ok status) :
    reconnect.run c =
      ⟨.ok status, [c.sent .reset, .noted .info .probe (welcome status)],
        { c.behind with session := { c.session with status } }⟩ := by
  obtain ⟨text, came, told⟩ := told_of_answer h
  simp [reconnect, run_transfer, came, told, Connection.behind, -bind_pure_comp]

theorem reconnect_of_unanswered {c : Connection} {fault : Fault}
    (h : answer c.session.url c.link.next.1 = .error fault) :
    reconnect.run c = ⟨.error fault, [c.sent .reset], c.behind⟩ := by
  cases came : c.link.next.1 with
  | broken reason | refused reason =>
      rw [came] at h
      cases h
      simp [reconnect, run_transfer, came]
  | answered code text =>
      rw [came, answer] at h
      split at h
      · next other =>
          cases h
          simp [reconnect, run_transfer, came, other]
      · next fine => simp [reconnect, run_transfer, came, Decidable.not_not.mp fine, h]

/-- An attempt leaves all of the session but its status. -/
theorem reconnect_respects {κ : Type} (view : Session → κ) {allows : κ → Event → Prop}
    (kept : ∀ session status, view { session with status } = view session)
    (sent : ∀ c : Connection, allows (view c.session) (c.sent .reset))
    (noted : ∀ k text, allows k (.noted .info .probe text)) :
    reconnect.Respects (fun c => view c.session) allows := by
  intro c
  cases told : answer c.session.url c.link.next.1 with
  | ok status =>
      rw [reconnect_of_answer told]
      exact ⟨kept _ _, by simpa using ⟨sent c, noted _ _⟩⟩
  | error fault =>
      rw [reconnect_of_unanswered told]
      exact ⟨rfl, by simpa using sent c⟩

end Session

end TickBound
