import TickBound.Survey.Basic

/-!
# The desk

A desk holds a host, a link and the sessions that were opened over it, of which the last one is current.
Cores are borrowed under the names of handles; a handle knows the session that its core belongs to, and
can still be used when the core is given back.
-/

namespace TickBound

/-- The name of a core that was borrowed. -/
structure Handle where
  name : String
  /-- The session that the core belongs to. -/
  session : Nat
  core : Core
  /-- The core is not given back yet. -/
  isLive : Bool := true

structure Desk where
  host : Host
  link : Link
  sessions : List Session
  /-- The session that is in use. -/
  current : Nat := 0
  /-- The handles, the newest first. -/
  handles : List Handle := []
  /-- The survey that was begun last, and its session. -/
  survey : Option (Nat × Progress) := none

namespace Desk

def session (desk : Desk) (i : Nat) : Session :=
  desk.sessions.getD i { url := "" }

def bench (desk : Desk) (i : Nat) : Bench :=
  ⟨desk.host, ⟨desk.link, desk.session i⟩⟩

/-- Takes over what has become of the bench with the session of that number. -/
def putBench (desk : Desk) (i : Nat) (bench : Bench) : Desk :=
  { desk with
    host := bench.host
    link := bench.connection.link
    sessions := desk.sessions.set i bench.connection.session }

def handle? (desk : Desk) (name : String) : Option Handle :=
  desk.handles.find? (·.name = name)

/-- Marks the handle of that name as given back. -/
def endHandle (name : String) : List Handle → List Handle
  | [] => []
  | handle :: more =>
      if handle.name = name then { handle with isLive := false } :: more
      else handle :: endHandle name more

variable {α : Type}

def onBench (i : Nat) (act : Act Bench α) : Act Desk α :=
  act.within (fun desk => desk.bench i) fun desk bench => desk.putBench i bench

def onCurrent (act : Act Bench α) : Act Desk α := do
  onBench (← .reads Desk.current) act

def onSession (act : Act Connection α) : Act Desk α :=
  onCurrent (Bench.onConnection act)

def onHost (act : Act Host α) : Act Desk α :=
  act.within Desk.host fun desk host => { desk with host }

/-- Opens a session, which becomes the current one. -/
def attach (target : String) (expected : Option String) (timeout : Float) : Act Desk String := do
  let session ← (Session.attach target expected timeout).within Desk.link fun desk link =>
    { desk with link }
  .change fun desk =>
    { desk with sessions := desk.sessions ++ [session], current := desk.sessions.length }
  pure session.url

/-! ## Cores -/

def handle (name : String) : Act Desk Handle := do
  match (← .reads fun desk => desk.handle? name) with
  | some handle => pure handle
  | none => .fail (.outside (.unknownHandle name))

/-- Gives back the core of a handle, unless that is done already. -/
def giveBack (handle : Handle) : Act Desk Unit := do
  if handle.isLive then
    onBench handle.session (Bench.onConnection (Session.release handle.core.index))
    .change fun desk => { desk with handles := endHandle handle.name desk.handles }

/-- Borrows a core of the current session under a name. The core that was borrowed under this name
before is given back, as no handle is left for it. -/
def borrow (index : Int) (name : String) : Act Desk Unit := do
  onSession (Session.borrow index)
  match (← .reads fun desk => desk.handle? name) with
  | some older => giveBack older
  | none => pure ()
  .change fun desk =>
    { desk with handles := { name, session := desk.current, core := { index } } :: desk.handles }

/-- Gives back the core of the handle of that name. Doing it again has no effect. -/
def release (name : String) : Act Desk Unit := do
  giveBack (← handle name)

/-- Which core is meant: that of a handle, or a core of the current session by its number. -/
inductive CoreChoice where
  | handle (name : String)
  | fresh (index : Int)

/-- An activity on a core. -/
def onCore (choice : CoreChoice) (act : Core → Act Connection α) : Act Desk α := do
  match choice with
  | .handle name => do
      let handle ← handle name
      onBench handle.session (Bench.onConnection (act handle.core))
  | .fresh index => onSession (act { index })

/-! ## Surveys -/

/-- Begins a survey with the current session. Nothing is read yet. -/
def beginSurvey (directory : String) : Act Desk Unit :=
  .change fun desk => { desk with survey := some (desk.current, .fresh directory) }

/-- Takes the next record of the survey that was begun last. -/
def nextRecord (settings : Settings) : Act Desk (Option Record) := do
  match (← .reads Desk.survey) with
  | none => .fail (.outside .noSurvey)
  | some (i, progress) =>
      (Survey.next settings).within
        (fun desk => ⟨desk.bench i, progress⟩)
        (fun desk survey =>
          { desk.putBench i survey.bench with survey := some (i, survey.progress) })

end Desk

end TickBound
