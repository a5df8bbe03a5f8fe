import TickBound.Proofs.Lending
import TickBound.Proofs.Recognition
import TickBound.Proofs.Traffic

/-!
# Setting up the connection again

An attempt to set up the connection is one request. It takes over the status from a reply that reports a
target which is connected, and from any other reply the session stays what it was. So whatever is done
with sessions, the status of each of them is the empty one that it began with or one of a target that was
connected.
-/

namespace TickBound

def SaysConnected (status : Json.Members) : Prop :=
  ∃ value, Json.Members.get? status "connected" = some value ∧ value.isTruthy = true

/-- The text is an object in which the member that stands last under `status` is an object, and that
one says that the target is connected. -/
def ReportsStatusOf (text : String) (status : Json.Members) : Prop :=
  ∃ pairs, Json.ObjectText text pairs ∧ Json.last? pairs "status" = some (.object status) ∧
    SaysConnected status

/-- The text is an object without a status, or with one that does not say that the target is
connected. -/
def LacksConnection (text : String) : Prop :=
  ∃ pairs, Json.ObjectText text pairs ∧
    (Json.last? pairs "status" = none ∨
      ∃ status, Json.last? pairs "status" = some (.object status) ∧ ¬ SaysConnected status)

/-- There is no connection for reasons that belong to attaching. -/
def Reply.Declines : Reply → Prop
  | .answered code text => code ≠ 200 ∨ LacksConnection text
  | .refused _ => True
  | .broken _ => False

theorem isTruthy_getD_connected {status : Json.Members} :
    (Json.Members.getD status "connected" (.bool false)).isTruthy = true ↔ SaysConnected status := by
  unfold Json.Members.getD SaysConnected
  cases Json.Members.get? status "connected" with
  | none => simp [Json.isTruthy]
  | some value => simp

theorem not_saysConnected_nil : ¬ SaysConnected [] := by
  rintro ⟨value, found, -⟩
  cases found

theorem ReportsStatus.cases {text : String} (h : ReportsStatus text) :
    (∃ status, ReportsStatusOf text status) ∨ LacksConnection text := by
  obtain ⟨members, status, parsed, reported⟩ := h
  obtain ⟨pairs, isObject, rfl⟩ := Json.document_object.mp (Json.read_eq_ok.mp parsed)
  rw [Json.Members.getD, Json.Members.get?_ofPairs] at reported
  cases found : Json.last? pairs "status" with
  | none => exact .inr ⟨pairs, isObject, .inl found⟩
  | some value =>
      rw [found, Option.getD_some] at reported
      rw [reported] at found
      by_cases connected : SaysConnected status
      · exact .inl ⟨status, pairs, isObject, found, connected⟩
      · exact .inr ⟨pairs, isObject, .inr ⟨status, found, connected⟩⟩

/-! ## One attempt -/

namespace Session

theorem statusIn_of_object {text : String} {pairs : List (DataText × Json)} {status : Json.Members}
    (isObject : Json.ObjectText text pairs)
    (found : (Json.last? pairs "status").getD (.object []) = .object status) (url : String) :
    statusIn url text =
      if (Json.Members.getD status "connected" (.bool false)).isTruthy then .ok status
      else .error (.attach (.notConnected url)) := by
  have parsed : Json.read text = .ok (.object (Json.Members.ofPairs pairs)) :=
    Json.read_eq_ok.mpr (Json.document_object.mpr ⟨pairs, isObject, rfl⟩)
  have reported : Json.Members.getD (Json.Members.ofPairs pairs) "status" (.object []) =
      .object status := by
    rw [Json.Members.getD, Json.Members.get?_ofPairs, found]
  simp only [statusIn, parsed, reported]

theorem statusIn_of_reports {text : String} {status : Json.Members}
    (h : ReportsStatusOf text status) (url : String) : statusIn url text = .ok status := by
  obtain ⟨pairs, isObject, found, connected⟩ := h
  rw [statusIn_of_object isObject (by rw [found]; rfl), if_pos (isTruthy_getD_connected.mpr connected)]

theorem statusIn_of_lacks {text : String} (h : LacksConnection text) (url : String) :
    statusIn url text = .error (.attach (.notConnected url)) := by
  obtain ⟨pairs, isObject, none | ⟨status, found, unconnected⟩⟩ := h
  · rw [statusIn_of_object isObject (by rw [none]; rfl),
      if_neg (not_saysConnected_nil ∘ isTruthy_getD_connected.mp)]
  · rw [statusIn_of_object isObject (by rw [found]; rfl),
      if_neg (unconnected ∘ isTruthy_getD_connected.mp)]

variable {url : String} {reply : Reply} {status : Json.Members} {fault : Fault}

theorem answer_eq_ok :
    answer url reply = .ok status ↔
      ∃ text, reply = .answered 200 text ∧ ReportsStatusOf text status := by
  constructor
  · intro answered
    obtain ⟨text, came, told⟩ := told_of_answer answered
    have reports := (reportsConnected_of_statusIn told).reportsStatus
    obtain ⟨other, found⟩ | lacks := reports.cases
    · rw [statusIn_of_reports found] at told
      cases told
      exact ⟨text, came, found⟩
    · rw [statusIn_of_lacks lacks] at told
      cases told
  · rintro ⟨text, rfl, reports⟩
    exact (answer_fine url text).trans (statusIn_of_reports reports url)

/-- An attempt fails as one to attach does just where the reply declines it. -/
theorem kind?_of_answer (h : answer url reply = .error fault) :
    fault.kind? = some .attach ↔ reply.Declines := by
  cases reply with
  | broken reason =>
      cases h
      constructor
      · intro own
        cases own
      · exact False.elim
  | refused reason =>
      cases h
      exact ⟨fun _ => trivial, fun _ => rfl⟩
  | answered code text =>
      rw [answer] at h
      split at h
      · next other =>
          cases h
          exact ⟨fun _ => .inl other, fun _ => rfl⟩
      · next fine =>
          by_cases reports : ReportsStatus text
          · obtain ⟨status, found⟩ | lacks := reports.cases
            · rw [statusIn_of_reports found] at h
              cases h
            · rw [statusIn_of_lacks lacks] at h
              cases h
              exact ⟨fun _ => .inr lacks, fun _ => rfl⟩
          · obtain ⟨cause, outside⟩ := statusIn_of_other reports url
            rw [outside] at h
            cases h
            constructor
            · intro own
              cases own
            · rintro (other | lacks)
              · exact absurd other fine
              · rw [statusIn_of_lacks lacks] at outside
                cases outside

end Session

/-! ## What sessions know of their targets -/

/-- The session knows nothing of its target yet, or that it was connected. -/
def Session.IsFaithful (session : Session) : Prop :=
  session.status = [] ∨ SaysConnected session.status

namespace Session

def KeepsFaith {α : Type} (act : Act Connection α) : Prop :=
  act.Keeps fun c => c.session.IsFaithful

variable {α : Type}

theorem keepsFaith_of_isCarried {act : Act Connection α} (h : act.IsCarried) : KeepsFaith act :=
  h.keeps fun _ _ same => by simp only [same, imp_self]

theorem faithful_of_reconnect {c : Connection} {status : Json.Members}
    (h : (reconnect.run c).result = .ok status) : (reconnect.run c).final.session.IsFaithful := by
  cases told : answer c.session.url c.link.next.1 with
  | error fault =>
      rw [reconnect_of_unanswered told] at h
      cases h
  | ok status =>
      rw [reconnect_of_answer told]
      obtain ⟨text, -, pairs, -, -, connected⟩ := answer_eq_ok.mp told
      exact .inr connected

theorem keepsFaith_reconnect : KeepsFaith reconnect := by
  intro c faithful
  cases told : answer c.session.url c.link.next.1 with
  | error fault =>
      rw [reconnect_of_unanswered told]
      exact faithful
  | ok status => exact faithful_of_reconnect (by rw [reconnect_of_answer told])

theorem keepsFaith_release (index : Int) : KeepsFaith (release index) :=
  .change fun _ => id

theorem keepsFaith_borrow (index : Int) : KeepsFaith (borrow index) := by
  intro c faithful
  by_cases lent : index ∈ c.session.borrowed
  · rw [borrow_of_lent lent]
    exact faithful
  · rw [borrow_of_free lent]
    exact faithful

theorem keepsFaith_borrowing {act : Act Connection α} (index : Int) (h : KeepsFaith act) :
    KeepsFaith (borrowing index act) :=
  (keepsFaith_borrow index).bind fun _ => h.ensuring (keepsFaith_release index)

/-- A session that is opened has taken over the status of a connected target. -/
theorem faithful_of_attach {target : String} {expected : Option String} {timeout : Float}
    {link : Link} {session : Session}
    (h : ((attach target expected timeout).run link).result = .ok session) : session.IsFaithful := by
  obtain ⟨⟨status, opened⟩, connected, rest⟩ := Act.bind_result_ok.mp h
  have same : session = opened := by
    cases expected with
    | none =>
        cases rest
        rfl
    | some name =>
        dsimp only at rest
        split at rest
        · cases rest
          rfl
        · cases rest
  obtain ⟨ok, left⟩ := result_of_opening connected
  have run := Act.run_onFault_of_ok ok
  rw [run] at ok
  rw [same, ← left, run]
  exact faithful_of_reconnect ok

end Session

namespace Bench

def KeepsFaith {α : Type} (act : Act Bench α) : Prop :=
  act.Keeps fun bench => bench.connection.session.IsFaithful

variable {α : Type}

theorem keepsFaith_onConnection {act : Act Connection α} (h : Session.KeepsFaith act) :
    KeepsFaith (onConnection act) :=
  h.within (fun _ => id) fun _ _ _ faithful => faithful

theorem keepsFaith_onHost (act : Act Host α) : KeepsFaith (onHost act) :=
  fun _ => id

end Bench

/-! ## At the desk -/

namespace Desk

def IsFaithful (desk : Desk) : Prop :=
  ∀ session ∈ desk.sessions, session.IsFaithful

variable {desk : Desk} {α : Type}

theorem IsFaithful.session (h : desk.IsFaithful) (i : Nat) : (desk.session i).IsFaithful := by
  by_cases inside : i < desk.sessions.length
  · have same : desk.session i = desk.sessions[i] := by simp [Desk.session, inside]
    rw [same]
    exact h _ (List.getElem_mem inside)
  · have same : desk.session i = { url := "" } := by simp [Desk.session, Nat.le_of_not_lt inside]
    rw [same]
    exact .inl rfl

theorem IsFaithful.putBench (h : desk.IsFaithful) (i : Nat) {bench : Bench}
    (faithful : bench.connection.session.IsFaithful) : (desk.putBench i bench).IsFaithful := by
  intro session mem
  rcases List.mem_or_eq_of_mem_set mem with mem | rfl
  · exact h session mem
  · exact faithful

def KeepsFaith (act : Act Desk α) : Prop :=
  act.Keeps IsFaithful

theorem keepsFaith_onBench {act : Act Bench α} (i : Nat) (h : Bench.KeepsFaith act) :
    KeepsFaith (onBench i act) :=
  h.within (fun _ faithful => faithful.session i) fun _ _ faithful => faithful.putBench i

theorem keepsFaith_rules (settings : Settings) :
    Rules settings (fun _ act => Bench.KeepsFaith act) fun _ act => KeepsFaith act where
  bench := Act.Keeps.rules _
  desk := Act.Keeps.rules _
  onBench := keepsFaith_onBench
  onHost _ _ := id
  closed _ := id
  hosts _ := Bench.keepsFaith_onHost _
  carried h := Bench.keepsFaith_onConnection (Session.keepsFaith_of_isCarried h)
  connected := Bench.keepsFaith_onConnection Session.keepsFaith_reconnect
  measured := by
    apply Bench.keepsFaith_onConnection
    apply Session.keepsFaith_borrowing
    exact Session.keepsFaith_of_isCarried (Sample.isCarried_measure _ _ _)
  emitted _ _ := id

theorem keepsFaith_attach (target : String) (expected : Option String) (timeout : Float) :
    KeepsFaith (attach target expected timeout) := by
  intro desk faithful
  simp only [attach, Act.run_bind, Act.run_within]
  cases result : ((Session.attach target expected timeout).run desk.link).result with
  | error fault => exact faithful
  | ok session =>
      intro other mem
      rcases List.mem_append.mp mem with mem | mem
      · exact faithful other mem
      · rw [List.mem_singleton.mp mem]
        exact Session.faithful_of_attach result

theorem keepsFaith_giveBack (handle : Handle) : KeepsFaith (giveBack handle) := by
  unfold giveBack
  split
  · apply Act.Keeps.bind
    · exact keepsFaith_onBench _ (Bench.keepsFaith_onConnection (Session.keepsFaith_release _))
    · exact fun _ => .change fun _ => id
  · exact fun _ => id

theorem keepsFaith_borrow (index : Int) (name : String) : KeepsFaith (borrow index name) := by
  have taken : Bench.KeepsFaith (Bench.onConnection (Session.borrow index)) :=
    Bench.keepsFaith_onConnection (Session.keepsFaith_borrow index)
  have current : KeepsFaith (onSession (Session.borrow index)) :=
    Act.Keeps.bind (.reads _) fun i => keepsFaith_onBench i taken
  apply current.bind
  intro _
  refine .bind (.reads _) fun older => ?_
  cases older with
  | none => exact .change fun _ => id
  | some handle => exact (keepsFaith_giveBack handle).bind fun _ => .change fun _ => id

theorem keepsFaith_nextRecord (settings : Settings) : KeepsFaith (nextRecord settings) := by
  have rules := keepsFaith_rules settings
  apply rules.desk.bind (rules.desk.reads _)
  intro begun
  cases begun with
  | none => exact rules.desk.fail _
  | some begun =>
      have taken (path : String) : (Survey.onBench (Bench.record settings path)).Keeps
          fun survey => survey.bench.connection.session.IsFaithful :=
        (rules.record path).within (fun _ => id) fun _ _ _ faithful => faithful
      have next : (Survey.next settings).Keeps fun survey =>
          survey.bench.connection.session.IsFaithful :=
        Survey.next_has (Act.Keeps.rules _) taken fun _ => .change fun _ => id
      exact next.within (fun _ faithful => faithful.session begun.1) fun _ _ faithful =>
        faithful.putBench begun.1

theorem take_keepsFaith (settings : Settings) (step : Step) : KeepsFaith (step.take settings) := by
  have rules := keepsFaith_rules settings
  apply rules.take step
  · exact fun _ _ _ _ => keepsFaith_attach _ _ _
  · exact fun _ _ _ => keepsFaith_borrow _ _
  · exact fun name _ _ => (rules.handle name).bind keepsFaith_giveBack
  · exact fun _ _ => .change fun _ => id
  · exact fun _ => keepsFaith_nextRecord settings

theorem after_keepsFaith (settings : Settings) (steps : List Step) {desk : Desk}
    (h : desk.IsFaithful) : (desk.after settings steps).IsFaithful := by
  induction steps generalizing desk with
  | nil => exact h
  | cons step more ih => exact ih (take_keepsFaith settings step desk h)

end Desk

namespace Session

/-- An attempt to set up the connection is one request. It gives a status just where the reply reports
one of a connected target, which the session takes over; otherwise the session stays what it was. So
behind any steps, what a session has for a status is nothing or that of a connected target. -/
theorem reconnect_all_or_nothing :
    (∀ c : Connection,
      let reply := c.link.next.1
      let course := reconnect.run c
      external course.events = [c.sent .reset] ∧
      Request.url c.session.url .reset = c.session.url ++ "/target/reset" ∧
      Request.body? .reset = some [] ∧
      (∀ status, course.result = .ok status ↔
        ∃ text, reply = .answered 200 text ∧ ReportsStatusOf text status) ∧
      (∀ status, course.result = .ok status → course.final.session = { c.session with status }) ∧
      ∀ fault, course.result = .error fault →
        course.final.session = c.session ∧ (fault.kind? = some .attach ↔ reply.Declines)) ∧
    ∀ (settings : Settings) (steps : List Step) (host : Host) (link : Link) (url : String)
      (timeout : Float) (k : Nat),
      let session := ((Desk.fresh host link url timeout).after settings steps).session k
      session.status = [] ∨ SaysConnected session.status := by
  constructor
  · intro c reply course
    cases told : answer c.session.url reply with
    | ok status =>
        have run : course = _ := reconnect_of_answer told
        rw [run]
        refine ⟨rfl, rfl, rfl, fun other => ?_, fun other same => ?_, fun fault failed => ?_⟩
        · rw [← answer_eq_ok, told]
        · cases same
          rfl
        · cases failed
    | error fault =>
        have run : course = _ := reconnect_of_unanswered told
        rw [run]
        refine ⟨rfl, rfl, rfl, fun status => ?_, fun status same => ?_, fun other same => ?_⟩
        · rw [← answer_eq_ok, told]
        · cases same
        · cases same
          exact ⟨rfl, kind?_of_answer told⟩
  · intro settings steps host link url timeout k
    have fresh : (Desk.fresh host link url timeout).IsFaithful := by
      intro session mem
      rw [List.mem_singleton.mp mem]
      exact .inl rfl
    exact (Desk.after_keepsFaith settings steps fresh).session k

end Session

end TickBound
