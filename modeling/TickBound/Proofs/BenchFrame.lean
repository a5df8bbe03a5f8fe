import TickBound.Proofs.Counts
import TickBound.Proofs.SurveyRules

/-!
# What a measurement leaves alone

No program that is started changes the files that images are taken from, and nothing that is done on a
bench for one image closes the session or prints a line. The address of the probe and the bound on
requests stay what they were when the session was opened. What holds of records is put together from
what holds of their parts.
-/

namespace TickBound

def Event.IsWork : Event → Prop
  | .closed => False
  | .printed _ => False
  | _ => True

def Event.IsHostWork : Event → Prop
  | .ran _ _ _ _ => True
  | .noted _ _ _ => True
  | _ => False

theorem Event.IsHostWork.isWork {event : Event} (h : event.IsHostWork) : event.IsWork := by
  cases event with
  | requested | closed | printed => exact h.elim
  | slept | ran | noted => trivial

/-! ## Programs of the host -/

def Host.KeepsFiles {α : Type} (act : Act Host α) : Prop :=
  act.Respects Host.files fun _ event => event.IsHostWork

open Host (KeepsFiles)

namespace Host

theorem keepsFiles_run (arguments : List String) (input : Option String) (limit : Option Float) :
    KeepsFiles (run arguments input limit) := by
  cases arguments with
  | nil => exact .fail _
  | cons program more =>
      have started : KeepsFiles (start (program :: more) input limit) :=
        fun _ => ⟨rfl, by simp [start, Event.IsHostWork]⟩
      refine started.bind fun outcome => ?_
      cases outcome with
      | ended code output errors => exact .pure _
      | notFound | denied | timedOut => exact .fail _

theorem keepsFiles_toolOutput (name : String) (arguments : List String) :
    KeepsFiles (toolOutput name arguments) := by
  refine .bind (.reads _) fun missing => .ite (.fail _) ?_
  exact (keepsFiles_run _ _ _).bind fun finished => .ite (.fail _) (.pure _)

theorem keepsFiles_note (level : Level) (source : Source) (text : String) :
    KeepsFiles (Act.note level source text) :=
  .emit fun _ => trivial

end Host

namespace Image

open Host

theorem keepsFiles_symbolAddress (path symbol : String) : KeepsFiles (symbolAddress path symbol) :=
  (keepsFiles_toolOutput _ _).bind fun _ => .pure _

theorem keepsFiles_markerCount (path symbol : String) : KeepsFiles (markerCount path symbol) :=
  (keepsFiles_toolOutput _ _).bind fun _ => .pure _

theorem keepsFiles_checkMarkers (path symbol : String) : KeepsFiles (checkMarkers path symbol) := by
  have inspected : KeepsFiles (inspect path symbol) := by
    refine (keepsFiles_symbolAddress _ _).bind fun found => ?_
    cases found with
    | none => exact .fail _
    | some address => exact (keepsFiles_markerCount _ _).bind fun _ => .pure _
  exact .bind inspected.mapFault fun _ => .ite (.fail _) (keepsFiles_note _ _ _)

theorem keepsFiles_checkFile (path : String) : KeepsFiles (checkFile path) :=
  .bind (.reads _) fun _ => .ofExcept _

theorem keepsFiles_write (settings : Settings) (path : String) : KeepsFiles (write settings path) := by
  refine (keepsFiles_checkFile _).bind fun _ => .bind (.ofExcept _) fun _ => ?_
  refine (keepsFiles_note _ _ _).bind fun _ => (keepsFiles_note _ _ _).bind fun _ => ?_
  exact (keepsFiles_run _ _ _).mapFault.bind fun _ => .ite (.fail _) (.pure _)

end Image

namespace Engine

open Host

theorem keepsFiles_entryAddress (path entry : String) : KeepsFiles (entryAddress path entry) := by
  refine (Image.keepsFiles_symbolAddress _ _).mapFault.bind fun found => ?_
  cases found with
  | none => exact .fail _
  | some address => exact .pure _

theorem keepsFiles_noteBounds (i : Nat) (bounds : List Nat) :
    KeepsFiles (noteBounds i bounds) := by
  induction bounds generalizing i with
  | nil => exact .pure _
  | cons bound more ih => exact (keepsFiles_note _ _ _).bind fun _ => ih (i + 1)

theorem keepsFiles_explore (settings : Settings) (options : EngineOptions) (path entry : String) :
    KeepsFiles (explore settings options path entry) := by
  refine (keepsFiles_entryAddress _ _).bind fun _ => (keepsFiles_note _ _ _).bind fun _ => ?_
  refine .bind (.ofExcept _) fun _ => (keepsFiles_run _ _ _).mapFault.bind fun _ => ?_
  refine .ite (.fail _) (.bind (.ofExcept _) fun bounds => ?_)
  exact .ite ((keepsFiles_noteBounds _ _).bind fun _ => .pure _) (.pure _)

theorem keepsFiles_bound (settings : Settings) (options : EngineOptions) (path entry : String) :
    KeepsFiles (bound settings options path entry) :=
  (keepsFiles_explore _ _ _ _).bind fun _ => .ofExcept _

end Engine

theorem Bench.keepsFiles_preflight (settings : Settings) (path : String) :
    KeepsFiles (preflight settings path) := by
  have entry := Engine.keepsFiles_entryAddress path settings.entrySymbol
  exact .ite ((Image.keepsFiles_checkMarkers _ _).bind fun _ => entry.bind fun _ => .pure _)
    (entry.bind fun _ => .pure _)

/-! ## Records -/

namespace Bench

variable {P : (α : Type) → Act Bench α → Prop} {settings : Settings}

theorem deploy_has (rules : Act.Rules P)
    (hosts : ∀ {α : Type} {act : Act Host α}, KeepsFiles act → P α (onHost act))
    (connected : P Json.Members (onConnection Session.reconnect)) (path : String) :
    P Unit (Image.deploy settings path) := by
  apply rules.bind (hosts (Image.keepsFiles_write _ _))
  intro _
  exact rules.bind connected fun _ => rules.pure _

theorem measureImage_has (rules : Act.Rules P)
    (hosts : ∀ {α : Type} {act : Act Host α}, KeepsFiles act → P α (onHost act))
    (connected : P Json.Members (onConnection Session.reconnect))
    (measured : P Int (onConnection (measureOn settings {}))) (path : String) :
    P Int (measureImage settings path) :=
  rules.bind (deploy_has rules hosts connected path) fun _ => measured

theorem record_has (rules : Act.Rules P)
    (hosts : ∀ {α : Type} {act : Act Host α}, KeepsFiles act → P α (onHost act))
    (connected : P Json.Members (onConnection Session.reconnect))
    (measured : P Int (onConnection (measureOn settings {})))
    (noted : ∀ level source text, P Unit (.note level source text)) (path : String) :
    P Record (record settings path) := by
  apply rules.bind (hosts (keepsFiles_preflight _ _))
  intro _
  apply rules.bind (measureImage_has rules hosts connected measured path)
  intro cycles
  apply rules.bind (hosts (Engine.keepsFiles_bound _ _ _ _))
  intro bound
  split
  · exact rules.bind (rules.fail _) fun _ => rules.bind (noted _ _ _) fun _ => rules.pure _
  · exact rules.bind (noted _ _ _) fun _ => rules.pure _

end Bench

/-! ## The connection -/

def Session.KeepsRoute {α : Type} (act : Act Connection α) : Prop :=
  act.Respects (fun c => c.session.Carries) fun _ event => event.IsWork

open Session (KeepsRoute)

namespace Session

theorem keepsRoute_reconnect : KeepsRoute reconnect :=
  reconnect_respects Carries (fun _ _ => rfl) (fun _ => trivial) fun _ _ => trivial

/-- A session that was opened for an activity is what the activity has made of it. -/
theorem result_of_opening {α : Type} {session opened : Session} {act : Act Connection α} {link : Link}
    {a : α} (h : ((opening session act).run link).result = .ok (a, opened)) :
    (act.run ⟨link, session⟩).result = .ok a ∧ (act.run ⟨link, session⟩).final.session = opened := by
  simp only [opening] at h
  cases result : (act.run ⟨link, session⟩).result with
  | ok b =>
      rw [result] at h
      cases h
      exact ⟨rfl, rfl⟩
  | error fault =>
      rw [result] at h
      cases h

theorem keepsRoute_of_isCarried {α : Type} {act : Act Connection α} (h : act.IsCarried) :
    KeepsRoute act := by
  intro c
  obtain ⟨kept, carried⟩ := h c
  refine ⟨congrArg Carries kept, fun event mem => ?_⟩
  have := carried event mem
  cases event <;> trivial

theorem keepsRoute_borrowing {α : Type} {act : Act Connection α} (index : Int)
    (h : KeepsRoute act) : KeepsRoute (borrowing index act) := by
  have borrowed : KeepsRoute (borrow index) :=
    .bind (.reads _) fun _ => .ite (.fail _) (.change fun _ => rfl)
  exact borrowed.bind fun _ => h.ensuring (.change fun _ => rfl)

end Session

theorem Sample.isCarried_measure (core : Core) (timeout : Float) (offset : Int) :
    (measure core timeout offset).IsCarried :=
  (take_follows core timeout offset).isCarried.bind fun _ => .ofExcept _

/-! ## The bench -/

namespace Bench

open Session

def frame (bench : Bench) : FileTree × (Event → Prop) :=
  (bench.host.files, bench.connection.session.Carries)

def KeepsFrame {α : Type} (act : Act Bench α) : Prop :=
  act.Respects frame fun _ event => event.IsWork

variable {α : Type}

theorem keepsFrame_onHost {act : Act Host α} (h : KeepsFiles act) : KeepsFrame (onHost act) :=
  h.within (fun _ _ kept => Prod.ext kept rfl) fun _ _ work => work.isWork

theorem keepsFrame_onConnection {act : Act Connection α} (h : KeepsRoute act) :
    KeepsFrame (onConnection act) :=
  h.within (fun _ _ kept => Prod.ext rfl kept) fun _ _ work => work

theorem keepsFrame_preflight (settings : Settings) (path : String) :
    KeepsFrame (onHost (preflight settings path)) :=
  keepsFrame_onHost (keepsFiles_preflight settings path)

theorem keepsFrame_deploy (settings : Settings) (path : String) :
    KeepsFrame (Image.deploy settings path) :=
  deploy_has (Act.Respects.rules _ _) keepsFrame_onHost (keepsFrame_onConnection keepsRoute_reconnect)
    path

theorem keepsFrame_record (settings : Settings) (path : String) :
    KeepsFrame (record settings path) := by
  have measured : KeepsRoute (measureOn settings {}) :=
    keepsRoute_borrowing _ (keepsRoute_of_isCarried (Sample.isCarried_measure _ _ _))
  exact record_has (Act.Respects.rules _ _) keepsFrame_onHost
    (keepsFrame_onConnection keepsRoute_reconnect) (keepsFrame_onConnection measured)
    (fun _ _ _ => .emit fun _ => trivial) path

end Bench

end TickBound
