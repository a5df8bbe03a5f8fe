import TickBound.Proofs.FailFast

/-!
# Opening a session

The reply to one request decides what becomes of an attempt to open a session. A session is closed when
it is refused or belongs to another target; a reply of which no status can be read leaves it open, as its
fault is none of attaching.
-/

namespace TickBound

/-- The text is an object, and so is the status in it if there is one. -/
def ReportsStatus (text : String) : Prop :=
  ∃ members status,
    Json.read text = .ok (.object members) ∧
    Json.Members.getD members "status" (.object []) = .object status

theorem ReportsConnected.reportsStatus {text : String} (h : ReportsConnected text) :
    ReportsStatus text := by
  obtain ⟨members, status, parsed, reported, -⟩ := h
  exact ⟨members, status, parsed, reported⟩

namespace Reply

/-- The reply to a reset either refuses it or tells a status. -/
def TellsStatus : Reply → Prop
  | .answered status text => status = 200 → ReportsStatus text
  | .refused _ => True
  | .broken _ => False

theorem Serves.tellsStatus {reply : Reply} (h : reply.Serves .reset) : reply.TellsStatus := by
  cases reply with
  | answered status text => exact fun _ => h.2.reportsStatus
  | refused reason => trivial
  | broken reason => exact h.elim

end Reply

namespace Session

/-! ## Setting up the connection -/

theorem statusIn_of_connected {text : String} (h : ReportsConnected text) (url : String) :
    ∃ status, statusIn url text = .ok status := by
  obtain ⟨members, status, parsed, reported, connected⟩ := h
  exact ⟨status, by simp [statusIn, parsed, reported, connected]⟩

theorem statusIn_of_status {text : String} (h : ReportsStatus text) (none : ¬ ReportsConnected text)
    (url : String) : statusIn url text = .error (.attach (.notConnected url)) := by
  obtain ⟨members, status, parsed, reported⟩ := h
  have unconnected : ¬ (Json.Members.getD status "connected" (.bool false)).isTruthy = true :=
    fun connected => none ⟨members, status, parsed, reported, connected⟩
  simp [statusIn, parsed, reported, unconnected]

theorem statusIn_of_other {text : String} (h : ¬ ReportsStatus text) (url : String) :
    ∃ fault, statusIn url text = .error (.outside fault) := by
  unfold statusIn
  cases parsed : Json.read text with
  | error refusal => exact ⟨_, rfl⟩
  | ok value =>
      cases value with
      | object members =>
          cases reported : Json.Members.getD members "status" (.object []) with
          | object status => exact absurd ⟨members, status, parsed, reported⟩ h
          | null | bool | int | real | string | array => exact ⟨.statusShape, by simp [reported]⟩
      | null | bool | int | real | string | array => exact ⟨_, rfl⟩

variable {reply : Reply}

theorem answer_of_serves (h : reply.Serves .reset) (url : String) :
    ∃ status, answer url reply = .ok status := by
  cases reply with
  | answered code text =>
      obtain ⟨rfl, connected⟩ := h
      obtain ⟨status, told⟩ := statusIn_of_connected connected url
      exact ⟨status, (answer_fine url text).trans told⟩
  | refused reason | broken reason => exact h.elim

/-- A reply that tells a status but does not serve is a failure of attaching. -/
theorem answer_of_refusal (h : ¬ reply.Serves .reset) (tells : reply.TellsStatus) (url : String) :
    ∃ fault, answer url reply = .error (.attach fault) := by
  cases reply with
  | answered code text =>
      by_cases fine : code = 200
      · subst fine
        have unconnected : ¬ ReportsConnected text := fun connected => h ⟨rfl, connected⟩
        have untold := statusIn_of_status (tells rfl) unconnected url
        exact ⟨_, (answer_fine url text).trans untold⟩
      · exact ⟨.resetRefused text, if_pos fine⟩
  | refused reason => exact ⟨.unreachable url reason, rfl⟩
  | broken reason => exact tells.elim

theorem answer_of_other (h : ¬ reply.TellsStatus) (url : String) :
    ∃ fault, answer url reply = .error (.outside fault) := by
  cases reply with
  | answered code text =>
      obtain ⟨rfl, none⟩ := Classical.not_imp.mp h
      obtain ⟨fault, untold⟩ := statusIn_of_other none url
      exact ⟨fault, (answer_fine url text).trans untold⟩
  | refused reason => exact absurd trivial h
  | broken reason => exact ⟨.transport reason, rfl⟩

variable {c : Connection}

theorem reconnect_of_told {text : String} {status : Json.Members}
    (h : c.link.next.1 = .answered 200 text) (told : statusIn c.session.url text = .ok status) :
    reconnect.run c =
      ⟨.ok status, [c.sent .reset, .noted .info .probe (welcome status)],
        { c.behind with session := { c.session with status } }⟩ :=
  reconnect_of_answer (by rw [h, answer_fine, told])

theorem reconnect_of_untold {text : String} {fault : Fault} (h : c.link.next.1 = .answered 200 text)
    (untold : statusIn c.session.url text = .error fault) :
    reconnect.run c = ⟨.error fault, [c.sent .reset], c.behind⟩ :=
  reconnect_of_unanswered (by rw [h, answer_fine, untold])

theorem reconnect_of_serves (h : c.link.next.1.Serves .reset) :
    ∃ status, reconnect.run c =
      ⟨.ok status, [c.sent .reset, .noted .info .probe (welcome status)],
        { c.behind with session := { c.session with status } }⟩ := by
  obtain ⟨status, told⟩ := answer_of_serves h c.session.url
  exact ⟨status, reconnect_of_answer told⟩

theorem reconnect_of_refusal (h : ¬ c.link.next.1.Serves .reset) (tells : c.link.next.1.TellsStatus) :
    ∃ fault, reconnect.run c = ⟨.error (.attach fault), [c.sent .reset], c.behind⟩ := by
  obtain ⟨fault, refused⟩ := answer_of_refusal h tells c.session.url
  exact ⟨fault, reconnect_of_unanswered refused⟩

theorem reconnect_of_other (h : ¬ c.link.next.1.TellsStatus) :
    ∃ fault, reconnect.run c = ⟨.error (.outside fault), [c.sent .reset], c.behind⟩ := by
  obtain ⟨fault, failed⟩ := answer_of_other h c.session.url
  exact ⟨fault, reconnect_of_unanswered failed⟩

/-! ## Attaching -/

variable (target : String) (expected : Option String) (timeout : Float) {link : Link}

def greeting (target : String) (timeout : Float) (link : Link) : Event :=
  .requested (address target) .reset timeout link.next.1

theorem attach_of_serves (h : link.next.1.Serves .reset) :
    ∃ status,
      (attach target expected timeout).run link =
        ⟨.ok { url := address target, timeout, status },
          [greeting target timeout link, .noted .info .probe (welcome status)], link.next.2⟩ ∨
      ∃ fault, (attach target expected timeout).run link =
        ⟨.error (.attach fault),
          [greeting target timeout link, .noted .info .probe (welcome status), .closed],
          link.next.2⟩ := by
  let c : Connection := ⟨link, { url := address target, timeout }⟩
  obtain ⟨status, connected⟩ := reconnect_of_serves (show c.link.next.1.Serves .reset from h)
  have opened : (opening c.session (Act.onFault (·.isA .attach) reconnect close)).run link =
      ⟨.ok (status, { c.session with status }),
        [greeting target timeout link, .noted .info .probe (welcome status)], link.next.2⟩ := by
    simp only [opening, Act.onFault]
    rw [show (⟨link, c.session⟩ : Connection) = c from rfl, connected]
    rfl
  refine ⟨status, ?_⟩
  rw [attach, Act.run_bind, opened, Course.follow_ok]
  cases expected with
  | none => exact .inl rfl
  | some name =>
      dsimp only
      split
      · exact .inl rfl
      · exact .inr ⟨_, rfl⟩

theorem attach_of_error {fault : Fault}
    (h : reconnect.run ⟨link, { url := address target, timeout }⟩ =
      ⟨.error fault, [greeting target timeout link], ⟨link.next.2, { url := address target, timeout }⟩⟩) :
    (attach target expected timeout).run link =
      ⟨.error fault,
        greeting target timeout link :: if fault.isA .attach then [.closed] else [], link.next.2⟩ := by
  rw [attach, Act.run_bind]
  simp only [opening, Act.onFault, h]
  by_cases own : fault.isA .attach = true
  · rw [if_pos own, if_pos own]
    rfl
  · rw [if_neg own, if_neg own]
    rfl

theorem attach_of_refusal (h : ¬ link.next.1.Serves .reset) (tells : link.next.1.TellsStatus) :
    ∃ fault, (attach target expected timeout).run link =
      ⟨.error (.attach fault), [greeting target timeout link, .closed], link.next.2⟩ := by
  let c : Connection := ⟨link, { url := address target, timeout }⟩
  obtain ⟨fault, refused⟩ := reconnect_of_refusal (show ¬ c.link.next.1.Serves .reset from h) tells
  exact ⟨fault, attach_of_error target expected timeout refused⟩

theorem attach_of_other (h : ¬ link.next.1.TellsStatus) :
    ∃ fault, (attach target expected timeout).run link =
      ⟨.error (.outside fault), [greeting target timeout link], link.next.2⟩ := by
  let c : Connection := ⟨link, { url := address target, timeout }⟩
  obtain ⟨fault, failed⟩ := reconnect_of_other (show ¬ c.link.next.1.TellsStatus from h)
  exact ⟨fault, attach_of_error target expected timeout failed⟩

/-- One request is sent whatever comes back. A reply that tells a status gives a session that is open, or
a failure of attaching behind which the session is closed once; from any other one the attempt is left
with the session open. -/
theorem attach_owns_session (target : String) (expected : Option String) (timeout : Float)
    (link : Link) :
    let course := (attach target expected timeout).run link
    let sent := Event.requested (address target) .reset timeout link.next.1
    (link.next.1.TellsStatus →
      (∃ session : Session, course.result = .ok session ∧ session.url = address target ∧
        external course.events = [sent]) ∨
      ∃ fault, course.result = .error (.attach fault) ∧ external course.events = [sent, .closed]) ∧
    (¬ link.next.1.TellsStatus →
      ∃ fault, course.result = .error (.outside fault) ∧ external course.events = [sent]) := by
  constructor
  · intro tells
    by_cases serves : link.next.1.Serves .reset
    · obtain ⟨status, attached | ⟨fault, other⟩⟩ := attach_of_serves target expected timeout serves
      · rw [attached]
        exact .inl ⟨_, rfl, rfl, rfl⟩
      · rw [other]
        exact .inr ⟨fault, rfl, rfl⟩
    · obtain ⟨fault, refused⟩ := attach_of_refusal target expected timeout serves tells
      rw [refused]
      exact .inr ⟨fault, rfl, rfl⟩
  · intro other
    obtain ⟨fault, failed⟩ := attach_of_other target expected timeout other
    rw [failed]
    exact ⟨fault, rfl, rfl⟩

def answeringList : Link where
  answers := [⟨.answered 200 "[]", 0⟩]

theorem statusIn_list (url : String) : statusIn url "[]" = .error (.outside .statusShape) := by
  have parsed : Json.read "[]" = .ok (.array []) := by rfl
  simp [statusIn, parsed]

/-- A reply of which no status can be read is no failure of attaching and leaves the session open. -/
theorem attach_leaves_open :
    let course := (attach "192.168.4.1" none 5).run answeringList
    course.result = .error (.outside .statusShape) ∧ .closed ∉ course.events := by
  have untold := statusIn_list (address "192.168.4.1")
  let c : Connection := ⟨answeringList, { url := address "192.168.4.1", timeout := 5 }⟩
  have failed := attach_of_error "192.168.4.1" none 5 (reconnect_of_untold (c := c) rfl untold)
  rw [failed]
  exact ⟨rfl, by simp [greeting, Fault.isA, Fault.kind?]⟩

end Session

end TickBound
