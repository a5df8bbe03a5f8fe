import TickBound.Proofs.LendingFrame
import TickBound.Proofs.Numerals
import TickBound.Proofs.Opening

/-!
# Cores are lent out once

From outside, a ledger tells who has which core: a core is entered when borrowing it has succeeded, and
struck out when it is given back or its name is used again. At every moment the cores that the sessions
have lent out are those of the ledger, so a core that is out is refused, and giving one back frees no
other.
-/

namespace TickBound

/-! ## The ledger -/

/-- The number of the session in use, and the cores that are out, by the names of their handles. A core
is one of a session. -/
structure Ledger where
  session : Nat := 0
  held : String → Option (Nat × Int) := fun _ => none

namespace Ledger

def strike (ledger : Ledger) (name : String) : Ledger :=
  { ledger with held := fun other => if other = name then none else ledger.held other }

def enter (ledger : Ledger) (name : String) (core : Nat × Int) : Ledger :=
  { ledger with held := fun other => if other = name then some core else ledger.held other }

@[simp] theorem held_strike (ledger : Ledger) (name other : String) :
    (ledger.strike name).held other = if other = name then none else ledger.held other := rfl

@[simp] theorem held_enter (ledger : Ledger) (name other : String) (core : Nat × Int) :
    (ledger.enter name core).held other = if other = name then some core else ledger.held other := rfl

def note (ledger : Ledger) : Step → Except Fault Finding → Ledger
  | .attach _ _ _, .ok _ => { ledger with session := ledger.session + 1 }
  | .borrow index name, .ok _ => ledger.enter name (ledger.session, index)
  | .release name _, .ok _ => ledger.strike name
  | _, _ => ledger

/-- The ledger behind steps, with what came of each. -/
def keep (ledger : Ledger) : List Step → List (Except Fault Finding × List Event) → Ledger
  | step :: steps, taken :: rest => (ledger.note step taken.1).keep steps rest
  | _, _ => ledger

theorem note_of_still (ledger : Ledger) {step : Step} (still : ¬ step.MovesCores)
    (result : Except Fault Finding) : ledger.note step result = ledger := by
  cases step with
  | attach => exact absurd trivial still
  | borrow => exact absurd trivial still
  | release => exact absurd trivial still
  | _ => rfl

end Ledger

namespace Lending

variable {lending : Lending} {k : Nat} {i : Int} {name : String}

/-! ## What is lent out -/

theorem lentBy_modify (lending : Lending) (session : Nat) (f : List Int → List Int) (k : Nat) :
    (lending.modify session f).lentBy k =
      if session = k ∧ k < lending.borrowed.length then f (lending.lentBy k) else lending.lentBy k := by
  simp only [lentBy, modify, List.getElem?_modify]
  by_cases here : session = k
  · by_cases inside : k < lending.borrowed.length
    · simp [here, inside]
    · simp [here, inside]
  · simp [here]

theorem lt_of_mem_lentBy (h : i ∈ lending.lentBy k) : k < lending.borrowed.length := by
  by_cases inside : k < lending.borrowed.length
  · exact inside
  · rw [lentBy, List.getElem?_eq_none (Nat.le_of_not_lt inside)] at h
    cases h

/-- Giving back a core leaves all others lent out. -/
theorem mem_lentBy_erase {session : Nat} {index : Int} (nodup : (lending.lentBy session).Nodup) :
    i ∈ (lending.modify session (·.erase index)).lentBy k ↔
      i ∈ lending.lentBy k ∧ (session, index) ≠ (k, i) := by
  rw [lentBy_modify]
  by_cases here : session = k ∧ k < lending.borrowed.length
  · obtain ⟨rfl, inside⟩ := here
    rw [if_pos ⟨rfl, inside⟩, nodup.mem_erase_iff]
    simp [and_comm, eq_comm]
  · rw [if_neg here]
    constructor
    · intro mem
      refine ⟨mem, fun same => here ⟨congrArg Prod.fst same, lt_of_mem_lentBy mem⟩⟩
    · exact And.left

/-! ## Handles -/

/-- The core that a handle stands for, until it is given back. -/
def coreOf? (handle : Handle) : Option (Nat × Int) :=
  if handle.isLive then some (handle.session, handle.core.index) else none

def holding? (lending : Lending) (name : String) : Option (Nat × Int) :=
  (lending.handles.find? (·.name = name)).bind coreOf?

theorem find?_endHandle (name other : String) (handles : List Handle) :
    ((Desk.endHandle name handles).find? (·.name = other)).bind coreOf? =
      if other = name then none else (handles.find? (·.name = other)).bind coreOf? := by
  induction handles with
  | nil => simp [Desk.endHandle]
  | cons handle more ih =>
      by_cases named : handle.name = name
      · rw [Desk.endHandle, if_pos named]
        by_cases same : other = name
        · simp [named, same, coreOf?]
        · have differs : name ≠ other := Ne.symm same
          simp [named, same, differs]
      · rw [Desk.endHandle, if_neg named]
        by_cases found : handle.name = other
        · have differs : other ≠ name := fun same => named (found.trans same)
          simp [found, differs]
        · simp only [List.find?_cons, found, decide_false]
          exact ih

def withdraw (lending : Lending) (name : String) : Lending :=
  match lending.holding? name with
  | some (session, index) =>
      { lending.modify session (·.erase index) with handles := Desk.endHandle name lending.handles }
  | none => lending

theorem withdraw_of_held {core : Nat × Int} (h : lending.holding? name = some core) :
    lending.withdraw name =
      { lending.modify core.1 (·.erase core.2) with
        handles := Desk.endHandle name lending.handles } := by
  simp only [withdraw, h]

theorem withdraw_of_none (h : lending.holding? name = none) : lending.withdraw name = lending := by
  simp only [withdraw, h]

@[simp] theorem current_withdraw (lending : Lending) (name : String) :
    (lending.withdraw name).current = lending.current := by
  unfold withdraw
  split
  · rfl
  · rfl

@[simp] theorem length_withdraw (lending : Lending) (name : String) :
    (lending.withdraw name).borrowed.length = lending.borrowed.length := by
  unfold withdraw
  split
  · exact List.length_modify _ _ _
  · rfl

theorem holding?_withdraw (lending : Lending) (name other : String) :
    (lending.withdraw name).holding? other = if other = name then none else lending.holding? other := by
  cases held : lending.holding? name with
  | some core =>
      rw [withdraw_of_held held]
      exact find?_endHandle name other lending.handles
  | none =>
      rw [withdraw_of_none held]
      by_cases same : other = name
      · rw [if_pos same, same, held]
      · rw [if_neg same]

theorem mem_lentBy_withdraw (nodup : ∀ k, (lending.lentBy k).Nodup) :
    i ∈ (lending.withdraw name).lentBy k ↔
      i ∈ lending.lentBy k ∧ lending.holding? name ≠ some (k, i) := by
  cases held : lending.holding? name with
  | some core =>
      rw [withdraw_of_held held, Ne, Option.some.injEq]
      exact mem_lentBy_erase (nodup core.1)
  | none =>
      rw [withdraw_of_none held]
      simp

theorem nodup_withdraw (nodup : ∀ k, (lending.lentBy k).Nodup) (name : String) (k : Nat) :
    ((lending.withdraw name).lentBy k).Nodup := by
  cases held : lending.holding? name with
  | some core =>
      rw [withdraw_of_held held]
      show ((lending.modify core.1 (·.erase core.2)).lentBy k).Nodup
      rw [lentBy_modify]
      split
      · exact (nodup k).erase _
      · exact nodup k
  | none =>
      rw [withdraw_of_none held]
      exact nodup k

def lend (lending : Lending) (index : Int) : Lending :=
  lending.modify lending.current (index :: ·)

theorem mem_lentBy_lend {index : Int} (inside : lending.current < lending.borrowed.length) :
    i ∈ (lending.lend index).lentBy k ↔
      (k = lending.current ∧ i = index) ∨ i ∈ lending.lentBy k := by
  rw [lend, lentBy_modify]
  by_cases here : lending.current = k
  · subst here
    rw [if_pos ⟨rfl, inside⟩]
    simp
  · rw [if_neg fun at_k => here at_k.1]
    simp [Ne.symm here]

theorem nodup_lend (nodup : ∀ k, (lending.lentBy k).Nodup) {index : Int}
    (free : index ∉ lending.lentBy lending.current) (k : Nat) :
    ((lending.lend index).lentBy k).Nodup := by
  rw [lend, lentBy_modify]
  split
  · next here =>
      rw [← here.1]
      exact List.nodup_cons.mpr ⟨free, nodup _⟩
  · exact nodup k

def hand (lending : Lending) (name : String) (index : Int) : Lending :=
  { lending with
    handles := { name, session := lending.current, core := { index } } :: lending.handles }

theorem holding?_hand (lending : Lending) (name other : String) (index : Int) :
    (lending.hand name index).holding? other =
      if other = name then some (lending.current, index) else lending.holding? other := by
  by_cases same : other = name
  · subst same
    simp [holding?, hand, coreOf?]
  · have differs : name ≠ other := Ne.symm same
    simp [holding?, hand, same, differs]

/-! ## The ledger is right -/

/-- The ledger tells what is lent out and to whom. -/
structure Matches (lending : Lending) (ledger : Ledger) : Prop where
  sessions : lending.borrowed.length = ledger.session + 1
  current : lending.current = ledger.session
  holding : ∀ name, lending.holding? name = ledger.held name
  lent : ∀ k i, i ∈ lending.lentBy k ↔ ∃ name, ledger.held name = some (k, i)
  nodup : ∀ k, (lending.lentBy k).Nodup
  /-- No core is out under two names. -/
  exclusive : ∀ name other core, ledger.held name = some core → ledger.held other = some core →
    name = other

namespace Matches

variable {ledger : Ledger}

theorem inside (h : lending.Matches ledger) : lending.current < lending.borrowed.length := by
  rw [h.current, h.sessions]
  exact Nat.lt_succ_self _

/-- A core that is not lent out is under no name. -/
theorem held_ne (h : lending.Matches ledger) {index : Int}
    (free : index ∉ lending.lentBy lending.current) (name : String) :
    ledger.held name ≠ some (ledger.session, index) := by
  intro out
  rw [h.current] at free
  exact free ((h.lent _ _).mpr ⟨name, out⟩)

/-- Striking out a name is giving back what is out under it. -/
theorem withdraw (h : lending.Matches ledger) (name : String) :
    (lending.withdraw name).Matches (ledger.strike name) where
  sessions := (lending.length_withdraw name).trans h.sessions
  current := (lending.current_withdraw name).trans h.current
  holding other := by
    rw [holding?_withdraw, h.holding, Ledger.held_strike]
  lent k i := by
    rw [mem_lentBy_withdraw h.nodup, h.lent, h.holding]
    constructor
    · rintro ⟨⟨other, out⟩, kept⟩
      have differs : other ≠ name := by
        rintro rfl
        exact kept out
      exact ⟨other, by rw [Ledger.held_strike, if_neg differs, out]⟩
    · rintro ⟨other, out⟩
      rw [Ledger.held_strike] at out
      split at out
      · cases out
      · next differs =>
          refine ⟨⟨other, out⟩, fun same => differs ?_⟩
          exact h.exclusive other name (k, i) out same
  nodup := nodup_withdraw h.nodup name
  exclusive one other core first second := by
    rw [Ledger.held_strike] at first second
    split at first
    · cases first
    · split at second
      · cases second
      · exact h.exclusive one other core first second

/-- A core that is not out can be lent, and has its name afterwards. -/
theorem lend (h : lending.Matches ledger) {index : Int}
    (free : index ∉ lending.lentBy lending.current) (name : String) :
    (((lending.lend index).withdraw name).hand name index).Matches
      (ledger.enter name (ledger.session, index)) where
  sessions := by
    show ((lending.lend index).withdraw name).borrowed.length = ledger.session + 1
    rw [length_withdraw, Lending.lend, modify, List.length_modify, h.sessions]
  current := ((lending.lend index).current_withdraw name).trans h.current
  holding other := by
    rw [holding?_hand, current_withdraw, holding?_withdraw, Ledger.held_enter]
    by_cases same : other = name
    · rw [if_pos same, if_pos same, ← h.current]
      rfl
    · rw [if_neg same, if_neg same, if_neg same]
      exact h.holding other
  lent k i := by
    show i ∈ ((lending.lend index).withdraw name).lentBy k ↔ _
    rw [mem_lentBy_withdraw (nodup_lend h.nodup free), mem_lentBy_lend h.inside, h.lent]
    show _ ∧ lending.holding? name ≠ some (k, i) ↔ _
    rw [h.holding]
    constructor
    · rintro ⟨⟨rfl, rfl⟩ | ⟨other, out⟩, kept⟩
      · exact ⟨name, by simp [h.current]⟩
      · have differs : other ≠ name := by
          rintro rfl
          exact kept out
        exact ⟨other, by rw [Ledger.held_enter, if_neg differs, out]⟩
    · rintro ⟨other, out⟩
      rw [Ledger.held_enter] at out
      split at out
      · cases out
        exact ⟨.inl ⟨h.current.symm, rfl⟩, h.held_ne free name⟩
      · next differs =>
          refine ⟨.inr ⟨other, out⟩, fun same => differs ?_⟩
          exact h.exclusive other name (k, i) out same
  nodup := nodup_withdraw (nodup_lend h.nodup free) name
  exclusive one other core first second := by
    rw [Ledger.held_enter] at first second
    split at first
    · next named =>
        split at second
        · next named' => exact named.trans named'.symm
        · cases first
          exact absurd second (h.held_ne free _)
    · split at second
      · cases second
        exact absurd first (h.held_ne free _)
      · exact h.exclusive one other core first second

end Matches

end Lending

/-! ## The steps that move cores -/

namespace Desk

variable {desk : Desk} {name : String} {index : Int}

theorem putBench_bench (desk : Desk) (i : Nat) : desk.putBench i (desk.bench i) = desk := by
  have same : desk.sessions.set i (desk.session i) = desk.sessions := by
    by_cases inside : i < desk.sessions.length
    · rw [session, List.getD_eq_getElem?_getD, List.getElem?_eq_getElem inside, Option.getD_some,
        List.set_getElem_self]
    · exact List.set_eq_of_length_le (Nat.le_of_not_lt inside)
  show { desk with sessions := desk.sessions.set i (desk.session i) } = desk
  rw [same]

theorem borrow_of_lent (h : index ∈ desk.lending.lentBy desk.current) (name : String) :
    (borrow index name).run desk = ⟨.error (.showing index (.busy index)), [], desk⟩ := by
  rw [lentBy_lending] at h
  have refused : (onSession (Session.borrow index)).run desk =
      ⟨.error (.showing index (.busy index)), [], desk⟩ := by
    have course := Session.borrow_of_lent (c := (desk.bench desk.current).connection) h
    simp only [onSession, onCurrent, Act.run_bind, Act.run_reads, Course.follow_ok, onBench,
      Act.run_within, Bench.onConnection, course, List.nil_append]
    rw [show ({ desk.bench desk.current with connection := (desk.bench desk.current).connection } :
      Bench) = desk.bench desk.current from rfl, putBench_bench]
  rw [borrow, Act.run_bind, refused]
  rfl

theorem lending_giveBack {handle : Handle} (h : desk.handle? name = some handle) :
    ((giveBack handle).run desk).result = .ok () ∧
      ((giveBack handle).run desk).final.lending = desk.lending.withdraw name := by
  have named : handle.name = name := by simpa using List.find?_some h
  have found : desk.lending.holding? name = Lending.coreOf? handle := by
    show (desk.handle? name).bind Lending.coreOf? = _
    rw [h]
    rfl
  by_cases live : handle.isLive
  · have held : desk.lending.holding? name = some (handle.session, handle.core.index) := by
      rw [found, Lending.coreOf?, if_pos live]
    let bench := desk.bench handle.session
    let session := { bench.connection.session with
      borrowed := bench.connection.session.borrowed.erase handle.core.index }
    let behind : Bench := ⟨bench.host, ⟨bench.connection.link, session⟩⟩
    have returned : (desk.putBench handle.session behind).lending =
        desk.lending.modify handle.session (·.erase handle.core.index) := lending_putBench rfl
    rw [Lending.withdraw_of_held held, giveBack, if_pos live, named, ← returned]
    exact ⟨rfl, rfl⟩
  · have none : desk.lending.holding? name = none := by
      rw [found, Lending.coreOf?, if_neg live]
    rw [Lending.withdraw_of_none none, giveBack, if_neg live]
    exact ⟨rfl, rfl⟩

theorem withdraw_of_unknown (h : desk.handle? name = none) :
    desk.lending.withdraw name = desk.lending := by
  apply Lending.withdraw_of_none
  show (desk.handle? name).bind Lending.coreOf? = none
  rw [h]
  rfl

theorem borrow_of_free (h : index ∉ desk.lending.lentBy desk.current) (name : String) :
    ((borrow index name).run desk).result = .ok () ∧
      ((borrow index name).run desk).final.lending =
        ((desk.lending.lend index).withdraw name).hand name index := by
  rw [lentBy_lending] at h
  let bench := desk.bench desk.current
  let lent := desk.putBench desk.current ⟨bench.host, ⟨bench.connection.link,
    { bench.connection.session with borrowed := index :: bench.connection.session.borrowed }⟩⟩
  have taken : (onSession (Session.borrow index)).run desk = ⟨.ok (), [], lent⟩ := by
    have course := Session.borrow_of_free (c := bench.connection) h
    simp only [onSession, onCurrent, Act.run_bind, Act.run_reads, Course.follow_ok, onBench,
      Act.run_within, Bench.onConnection]
    rw [course]
    rfl
  have same : lent.lending = desk.lending.lend index := lending_putBench rfl
  rw [borrow, Act.run_bind, taken, Course.follow_ok, Act.run_bind, Act.run_reads, Course.follow_ok,
    ← same]
  cases older : lent.handle? name with
  | none =>
      rw [withdraw_of_unknown older]
      exact ⟨rfl, rfl⟩
  | some handle =>
      obtain ⟨ok, returned⟩ := lending_giveBack older
      rw [← returned]
      simp only [Act.run_bind, Course.follow_of_ok ok]
      exact ⟨rfl, rfl⟩

/-- A known handle can be released at any time; what was given back before stays so. -/
theorem release_of_known {handle : Handle} (h : desk.handle? name = some handle) :
    ((release name).run desk).result = .ok () ∧
      ((release name).run desk).final.lending = desk.lending.withdraw name := by
  have known : (Desk.handle name).run desk = ⟨.ok handle, [], desk⟩ := by
    rw [Desk.handle, Act.run_bind, Act.run_reads, Course.follow_ok, h]
    rfl
  rw [release, Act.run_bind, known, Course.follow_ok]
  exact lending_giveBack h

theorem release_of_unknown (h : desk.handle? name = none) :
    (release name).run desk = ⟨.error (.outside (.unknownHandle name)), [], desk⟩ := by
  have unknown : (Desk.handle name).run desk =
      ⟨.error (.outside (.unknownHandle name)), [], desk⟩ := by
    rw [Desk.handle, Act.run_bind, Act.run_reads, Course.follow_ok, h]
    rfl
  rw [release, Act.run_bind, unknown]
  rfl

end Desk

/-! ## Steps and runs -/

def Lending.openSession (lending : Lending) : Lending :=
  { lending with borrowed := lending.borrowed ++ [[]], current := lending.borrowed.length }

namespace Lending.Matches

variable {ledger : Ledger}

theorem openSession {lending : Lending} (h : lending.Matches ledger) :
    lending.openSession.Matches { ledger with session := ledger.session + 1 } := by
  have same (k : Nat) : lending.openSession.lentBy k = lending.lentBy k := by
    simp only [lentBy, Lending.openSession, List.getElem?_append, List.getElem?_singleton]
    split
    · rfl
    · next outside =>
        rw [List.getElem?_eq_none (Nat.le_of_not_lt outside)]
        split
        · rfl
        · rfl
  constructor
  · simp [Lending.openSession, h.sessions]
  · exact h.sessions
  · exact h.holding
  · intro k i
    rw [same]
    exact h.lent k i
  · intro k
    rw [same]
    exact h.nodup k
  · exact h.exclusive

end Lending.Matches

/-- A session that was just opened has lent out nothing. -/
theorem Session.borrowed_of_attach {target : String} {expected : Option String} {timeout : Float}
    {link : Link} {session : Session}
    (h : ((attach target expected timeout).run link).result = .ok session) : session.borrowed = [] := by
  by_cases serves : link.next.1.Serves .reset
  · obtain ⟨status, attached | ⟨fault, other⟩⟩ := attach_of_serves target expected timeout serves
    · rw [attached] at h
      cases h
      rfl
    · rw [other] at h
      cases h
  · by_cases tells : link.next.1.TellsStatus
    · obtain ⟨fault, refused⟩ := attach_of_refusal target expected timeout serves tells
      rw [refused] at h
      cases h
    · obtain ⟨fault, failed⟩ := attach_of_other target expected timeout tells
      rw [failed] at h
      cases h

namespace Step

variable {ledger : Ledger} {desk : Desk}

/-- What a step finds is not part of what becomes of the desk. -/
theorem run_found {α : Type} (act : Act Desk α) (f : α → Finding) (desk : Desk) :
    (act >>= fun a => pure (f a)).run desk =
      ⟨(act.run desk).result.map f, (act.run desk).events, (act.run desk).final⟩ := by
  rw [Act.run_bind]
  cases h : (act.run desk).result with
  | ok a => simp [Course.follow_of_ok h, Except.map]
  | error fault => simp [Course.follow_of_error h, Except.map]

/-- Only an attempt that succeeds opens a session. -/
theorem lending_attach (desk : Desk) (target : String) (expected : Option String) (timeout : Float) :
    let course := (Desk.attach target expected timeout).run desk
    (∃ fault, course.result = .error fault ∧ course.final.lending = desk.lending) ∨
      ∃ url, course.result = .ok url ∧ course.final.lending = desk.lending.openSession := by
  simp only [Desk.attach, Act.run_bind, Act.run_within]
  cases result : ((Session.attach target expected timeout).run desk.link).result with
  | error fault => exact .inl ⟨fault, rfl, rfl⟩
  | ok session =>
      refine .inr ⟨session.url, rfl, ?_⟩
      have sessions : (desk.sessions ++ [session]).map Session.borrowed =
          desk.sessions.map Session.borrowed ++ [[]] := by
        rw [List.map_append, List.map_singleton, Session.borrowed_of_attach result]
      have count : desk.sessions.length = (desk.sessions.map Session.borrowed).length := by
        rw [List.length_map]
      show Lending.mk ((desk.sessions ++ [session]).map Session.borrowed) desk.handles
        desk.sessions.length = desk.lending.openSession
      rw [sessions, count]
      rfl

/-- What a step makes of the cores is what the ledger notes of it. -/
theorem take_matches (settings : Settings) (step : Step) (h : desk.lending.Matches ledger) :
    let course := (step.take settings).run desk
    course.final.lending.Matches (ledger.note step course.result) := by
  intro course
  by_cases still : ¬ step.MovesCores
  · rw [Ledger.note_of_still ledger still]
    exact (take_keepsLending settings still desk).1 ▸ h
  · cases step with
    | attach target expected timeout =>
        obtain ⟨fault, failed, same⟩ | ⟨url, ok, opened⟩ := lending_attach desk target expected timeout
        · simp only [course, take, run_found, failed, same]
          exact h
        · simp only [course, take, run_found, ok, opened]
          exact h.openSession
    | borrow index name =>
        by_cases lent : index ∈ desk.lending.lentBy desk.current
        · simp only [course, take, run_found, Desk.borrow_of_lent lent]
          exact h
        · obtain ⟨ok, moved⟩ := Desk.borrow_of_free lent name
          simp only [course, take, run_found, ok, moved]
          exact h.lend lent name
    | release name failing =>
        cases known : desk.handle? name with
        | none =>
            simp only [course, take, run_found, Desk.release_of_unknown known]
            exact h
        | some handle =>
            obtain ⟨ok, moved⟩ := Desk.release_of_known known
            simp only [course, take, run_found, ok, moved]
            exact h.withdraw name
    | _ => exact absurd id still

end Step

namespace Desk

def after (settings : Settings) : List Step → Desk → Desk
  | [], desk => desk
  | step :: more, desk => after settings more ((step.take settings).run desk).final

theorem after_matches (settings : Settings) (steps : List Step) {desk : Desk} {ledger : Ledger}
    (h : desk.lending.Matches ledger) :
    (desk.after settings steps).lending.Matches (ledger.keep steps (takeAll settings steps desk)) := by
  induction steps generalizing desk ledger with
  | nil => exact h
  | cons step more ih => exact ih (step.take_matches settings h)

def fresh (host : Host) (link : Link) (url : String) (timeout : Float) : Desk where
  host := host
  link := link
  sessions := [{ url, timeout }]

theorem fresh_matches (host : Host) (link : Link) (url : String) (timeout : Float) :
    (fresh host link url timeout).lending.Matches {} := by
  have none (k : Nat) : (fresh host link url timeout).lending.lentBy k = [] := by
    cases k with
    | zero => rfl
    | succ k => rfl
  constructor
  · rfl
  · rfl
  · exact fun _ => rfl
  · intro k i
    rw [none]
    simp
  · intro k
    rw [none]
    exact List.nodup_nil
  · intro name other core out
    cases out

/-- Behind any steps, the cores that are lent out are those that were borrowed and not given back. A core
that is out is refused and stays where it is, by a fault that names it unless its number is too long to
be shown, and any other can be borrowed; giving one back frees that one and no other; and a measurement
leaves all as it was, however it ends. -/
theorem lends_each_core_once (settings : Settings) (steps : List Step) (host : Host) (link : Link)
    (url : String) (timeout : Float) :
    let start := fresh host link url timeout
    let desk := start.after settings steps
    let ledger := Ledger.keep {} steps (takeAll settings steps start)
    (∀ k index, index ∈ (desk.session k).borrowed ↔ ∃ name, ledger.held name = some (k, index)) ∧
    (∀ name other core, ledger.held name = some core → ledger.held other = some core → name = other) ∧
    (∀ index name,
      let course := ((Step.borrow index name).take settings).run desk
      let refusal : Fault := if Number.fitsDecimal index then .busy index else .outside .decimalTooLong
      (index ∈ (desk.session desk.current).borrowed → course = ⟨.error refusal, [], desk⟩) ∧
      (index ∉ (desk.session desk.current).borrowed → course.result = .ok (.number index))) ∧
    (∀ name failing core, ledger.held name = some core →
      let course := ((Step.release name failing).take settings).run desk
      course.result = .ok (.flag false) ∧
        ∀ k index, index ∈ (course.final.session k).borrowed ↔
          index ∈ (desk.session k).borrowed ∧ (k, index) ≠ core) ∧
    ∀ path k,
      ((((Step.measureImage path).take settings).run desk).final.session k).borrowed =
        (desk.session k).borrowed := by
  intro start desk ledger
  have right : desk.lending.Matches ledger :=
    after_matches settings steps (fresh_matches host link url timeout)
  refine ⟨?_, right.exclusive, ?_, ?_, ?_⟩
  · intro k index
    rw [← lentBy_lending]
    exact right.lent k index
  · intro index name
    rw [← lentBy_lending]
    constructor
    · intro lent
      rw [Step.take, Step.run_found, borrow_of_lent lent]
      rfl
    · intro free
      rw [Step.take, Step.run_found, (borrow_of_free free name).1]
      rfl
  · intro name failing core out
    cases known : desk.handle? name with
    | none =>
        have held := right.holding name
        have nothing : desk.lending.holding? name = none := by
          show (desk.handle? name).bind Lending.coreOf? = none
          rw [known]
          rfl
        rw [nothing, out] at held
        cases held
    | some handle =>
        obtain ⟨ok, moved⟩ := release_of_known known
        rw [Step.take, Step.run_found, ok]
        refine ⟨rfl, fun k index => ?_⟩
        rw [← lentBy_lending, ← lentBy_lending, moved, Lending.mem_lentBy_withdraw right.nodup,
          right.holding, out, Ne, Option.some.injEq, eq_comm]
  · intro path k
    rw [← lentBy_lending, ← lentBy_lending]
    exact congrArg (Lending.lentBy · k) (Step.take_keepsLending settings id desk).1

/-- A core is free again when the name of its handle is used for another one, though it was not released.
And the refusal of a core whose number is too long to be shown is none of the measurement. -/
theorem lends_unreleased_core :
    let start := fresh ⟨[], [], .empty⟩ { answers := [] } "http://192.168.4.1/api" 5
    let taken (steps : List Step) :=
      (takeAll { probe := "192.168.4.1" } steps start).map Prod.fst
    let long : Int := Number.leastTooLong
    taken [.borrow 0 "a", .borrow 1 "a", .borrow 0 "b"] =
        [.ok (.number 0), .ok (.number 1), .ok (.number 0)] ∧
      taken [.borrow long "a", .borrow long "b"] =
        [.ok (.number long), .error (.outside .decimalTooLong)] := by
  intro start taken long
  refine ⟨rfl, ?_⟩
  let out : Desk :=
    { start with
      sessions := [{ url := "http://192.168.4.1/api", borrowed := [long] }]
      handles := [⟨"a", 0, ⟨long⟩, true⟩] }
  have first : ((Step.borrow long "a").take { probe := "192.168.4.1" }).run start =
      ⟨.ok (.number long), [], out⟩ := rfl
  have lent : long ∈ out.lending.lentBy out.current := List.mem_cons_self
  have second : ((Step.borrow long "b").take { probe := "192.168.4.1" }).run out =
      ⟨.error (.outside .decimalTooLong), [], out⟩ := by
    rw [Step.take, Step.run_found, borrow_of_lent lent,
      Fault.showing_of_long Number.fitsDecimal_leastTooLong]
    rfl
  simp only [taken, takeAll, first, second, List.map_cons, List.map_nil]

end Desk

end TickBound
