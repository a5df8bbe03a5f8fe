import TickBound.Desk.Step
import TickBound.Proofs.RecordAccounts
import TickBound.Proofs.SurveyFold
import TickBound.Proofs.SurveyRules

/-!
# The first failure ends everything

A step at the desk, and a run from the console, do nothing more once a request or a program has failed,
except that the session may be closed. Attempts to open a session and whole runs close it behind the
failure, so they do not fail fast in the strict sense; what they keep is closed under sequencing as well.
-/

namespace TickBound

namespace EndsAtFailure

variable {stopped more : Prop} {events : List Event}

theorem mono (h : EndsAtFailure stopped events) (le : stopped → more) : EndsAtFailure more events := by
  intro before event after split fails
  obtain ⟨last, stop⟩ := h before event after split fails
  exact ⟨last, le stop⟩

/-- Where a failure cannot have stopped anything, there was none. -/
theorem calm (h : EndsAtFailure stopped events) (on : ¬ stopped) : Calm events := by
  intro event mem fails
  obtain ⟨before, after, split⟩ := List.append_of_mem mem
  exact on (h before event after split fails).2

end EndsAtFailure

/-! ## Activities that end at a failure -/

namespace Act

variable {σ τ α β : Type}

/-- The first failed event ends the activity with a fault; at most the session is closed behind it. -/
def EndsFast (act : Act σ α) : Prop :=
  ∀ s, EndsAtFailure (∃ fault, (act.run s).result = .error fault) (act.run s).events

theorem FailsFast.endsFast {blame : Blame} {act : Act σ α} (h : act.FailsFast blame) : act.EndsFast :=
  fun s => (h s).endsAtFailure

/-- Everything may be amiss where only the order of events counts. -/
theorem Accountable.endsFast {act : Act σ α} (h : act.Accountable True) : act.EndsFast :=
  FailsFast.endsFast h

namespace EndsFast

theorem quiet {act : Act σ α} (h : ∀ s, (act.run s).events = []) : act.EndsFast := by
  intro s
  rw [h s]
  exact .of_calm .nil

theorem bind {act : Act σ α} {next : α → Act σ β} (first : act.EndsFast)
    (second : ∀ a, (next a).EndsFast) : (act >>= next).EndsFast := by
  intro s
  have ahead := first s
  rw [run_bind]
  cases h : (act.run s).result with
  | error fault =>
      rw [Course.follow_of_error h]
      exact ahead.mono fun _ => ⟨fault, rfl⟩
  | ok a =>
      have calm : Calm (act.run s).events := ahead.calm (by simp [h])
      rw [Course.follow_of_ok h]
      exact (second a (act.run s).final).behind calm

theorem within {part : τ → σ} {replace : τ → σ → τ} {act : Act σ α} (h : act.EndsFast) :
    (act.within part replace).EndsFast :=
  fun t => h (part t)

/-- The session is closed behind everything, also behind a failure. -/
theorem closing {blame : Blame} {act : Act σ α} (h : act.FailsFast blame) :
    (act.ensuring Session.close).EndsFast := by
  intro s
  show EndsAtFailure (∃ fault, (act.run s).result = .error fault) ((act.run s).events ++ [.closed])
  have closed : Calm [.closed] := calm_singleton.mpr id
  cases result : (act.run s).result with
  | ok a => exact .of_calm (((h s).calm result).append closed)
  | error fault =>
      rcases (h s).blamed result with ⟨calm, -⟩ | ⟨calm, last, split, before, -, -⟩
      · exact .of_calm (calm.append closed)
      · rw [split, List.append_assoc]
        exact .of_last before (.inr rfl) ⟨fault, rfl⟩

/-- What is made of a result does not show. -/
theorem found {act : Act σ α} (h : act.EndsFast) (f : α → β) :
    (act >>= fun a => pure (f a)).EndsFast :=
  h.bind fun _ => quiet fun _ => rfl

end EndsFast

end Act

theorem Session.endsFast_attach (target : String) (expected : Option String) (timeout : Float) :
    (attach target expected timeout).EndsFast := by
  intro link
  have noted {text : String} : Calm [.noted .info .probe text] := calm_singleton.mpr id
  have closed : Calm [.closed] := calm_singleton.mpr id
  by_cases serves : link.next.1.Serves .reset
  · have greeted : Calm [greeting target timeout link] := calm_singleton.mpr (not_not_intro serves)
    obtain ⟨status, attached | ⟨fault, other⟩⟩ := attach_of_serves target expected timeout serves
    · rw [attached]
      exact .of_calm (greeted.append noted)
    · rw [other]
      exact .of_calm (greeted.append (noted.append closed))
  · by_cases tells : link.next.1.TellsStatus
    · obtain ⟨fault, refused⟩ := attach_of_refusal target expected timeout serves tells
      rw [refused]
      exact .of_last .nil (.inr rfl) ⟨_, rfl⟩
    · obtain ⟨fault, failed⟩ := attach_of_other target expected timeout tells
      rw [failed]
      exact .of_last .nil (.inl rfl) ⟨_, rfl⟩

/-! ## Surveys -/

theorem Act.Accountable.rules {σ : Type} : Act.Rules (σ := σ) fun _ act => act.Accountable True where
  still {_ act} h := by
    intro s
    unfold Course.StopsAtFailure
    rw [(h s).1]
    cases (act.run s).result with
    | ok a => exact .nil
    | error fault => exact .inl ⟨.nil, .of_amiss trivial⟩
  bind := .bind

theorem Bench.failsFast_record (settings : Settings) (path : String) :
    (record settings path).Accountable True :=
  accountable_record (fun _ => trivial) fun _ => trivial

theorem Bench.failsFast_printTable (settings : Settings) (directory : String) :
    (printTable settings directory).Accountable True :=
  printTable_has Act.Accountable.rules (failsFast_record settings) (fun _ => .emit id) directory

theorem Survey.failsFast_next (settings : Settings) : (next settings).Accountable True :=
  next_has Act.Accountable.rules (fun path => .within (Bench.failsFast_record settings path))
    fun _ => .change _

/-! ## Steps at the desk -/

namespace Desk

variable {α : Type}

theorem endsFast_attach (target : String) (expected : Option String) (timeout : Float) :
    (attach target expected timeout).EndsFast := by
  apply Act.EndsFast.bind (Session.endsFast_attach target expected timeout).within
  exact fun session => .quiet fun _ => rfl

theorem endsFast_onBench {act : Act Bench α} (i : Nat) (h : act.EndsFast) : (onBench i act).EndsFast :=
  h.within

theorem endsFast_onCurrent {act : Act Bench α} (h : act.EndsFast) : (onCurrent act).EndsFast :=
  .bind (.quiet fun _ => rfl) fun i => endsFast_onBench i h

theorem endsFast_onSession {act : Act Connection α} (h : act.EndsFast) : (onSession act).EndsFast :=
  endsFast_onCurrent h.within

theorem endsFast_handle (name : String) : (handle name).EndsFast := by
  apply Act.EndsFast.bind (.quiet fun _ => rfl)
  intro found
  cases found with
  | none => exact .quiet fun _ => rfl
  | some handle => exact .quiet fun _ => rfl

theorem endsFast_onCore {act : Core → Act Connection α} (choice : CoreChoice)
    (h : ∀ core, (act core).EndsFast) : (onCore choice act).EndsFast := by
  cases choice with
  | fresh index => exact endsFast_onSession (h _)
  | handle name =>
      apply Act.EndsFast.bind (endsFast_handle name)
      exact fun handle => endsFast_onBench _ (h handle.core).within

/-- Lending and giving back are not seen from outside. -/
theorem endsFast_giveBack (handle : Handle) : (giveBack handle).EndsFast := by
  apply Act.EndsFast.quiet
  intro desk
  unfold giveBack
  split
  · rfl
  · rfl

theorem endsFast_borrow (index : Int) (name : String) : (borrow index name).EndsFast := by
  have lent : (Session.borrow index).EndsFast :=
    (Session.accountable_borrow fun _ => trivial).endsFast
  apply Act.EndsFast.bind (endsFast_onSession lent)
  intro _
  apply Act.EndsFast.bind (.quiet fun _ => rfl)
  intro older
  cases older with
  | none => exact .quiet fun _ => rfl
  | some handle => exact .bind (endsFast_giveBack handle) fun _ => .quiet fun _ => rfl

theorem endsFast_nextRecord (settings : Settings) : (nextRecord settings).EndsFast := by
  apply Act.EndsFast.bind (.quiet fun _ => rfl)
  intro survey
  cases survey with
  | none => exact .quiet fun _ => rfl
  | some begun => exact (Survey.failsFast_next settings).endsFast.within

end Desk

namespace Step

open Desk

/-- A step ends at the first request or program that fails. -/
theorem take_endsFast (settings : Settings) (step : Step) : (step.take settings).EndsFast := by
  have quiet : ∀ {σ α : Type} {act : Act σ α}, (∀ s, (act.run s).events = []) → act.EndsFast :=
    Act.EndsFast.quiet
  have closed : (Session.close : Act Desk Unit).EndsFast := Act.Accountable.endsFast (.emit id)
  cases step with
  | attach target expected timeout => exact (endsFast_attach target expected timeout).found _
  | reconnect => exact (endsFast_onSession Session.accountable_reconnect.endsFast).found _
  | architecture => exact (endsFast_onSession (quiet fun _ => rfl)).found _
  | status => exact (endsFast_onSession (quiet fun _ => rfl)).found _
  | close => exact closed.found _
  | enterAndLeave => exact closed.found _
  | read address => exact (endsFast_onSession (Session.accountable_readWord _).endsFast).found _
  | write address value =>
      exact (endsFast_onSession (Session.accountable_writeWord _ _).endsFast).found _
  | borrow index name => exact (endsFast_borrow index name).found _
  | release name failing =>
      exact ((endsFast_handle name).bind fun handle => endsFast_giveBack handle).found _
  | isHalted core => exact (endsFast_onCore core fun _ => Core.accountable_isHalted.endsFast).found _
  | halt core timeout =>
      exact (endsFast_onCore core fun _ =>
        (Core.accountable_halt (fun _ => trivial) timeout).endsFast).found _
  | waitHalted core timeout =>
      exact (endsFast_onCore core fun _ =>
        (Core.accountable_waitHalted (fun _ => trivial) timeout).endsFast).found _
  | resume core =>
      exact (endsFast_onCore core fun core => core.accountable_resume.endsFast).found _
  | reset core => exact (endsFast_onCore core fun _ => Core.accountable_reset.endsFast).found _
  | clearBreakpoints core =>
      exact (endsFast_onCore core fun _ => Core.accountable_clearBreakpoints.endsFast).found _
  | readRegister core register =>
      exact (endsFast_onCore core fun _ => (Core.accountable_readRegister _).endsFast).found _
  | writeRegister core register value =>
      exact (endsFast_onCore core fun _ => (Core.accountable_writeRegister _ _).endsFast).found _
  | readThrough core address =>
      exact (endsFast_onCore core fun _ => (Session.accountable_readWord _).endsFast).found _
  | readCounter core =>
      exact (endsFast_onCore core fun _ => Core.accountable_readCounter.endsFast).found _
  | takeSample core =>
      exact (endsFast_onCore core fun _ =>
        (Sample.accountable_take (fun _ => trivial) _ _).endsFast).found _
  | measure core =>
      exact (endsFast_onCore core fun _ =>
        (Sample.accountable_measure (fun _ => trivial) (fun _ => trivial) _).endsFast).found _
  | measureImage path =>
      exact (endsFast_onCurrent
        (Bench.accountable_measureImage (fun _ => trivial) fun _ => trivial).endsFast).found _
  | checkFile path => exact (Image.accountable_checkFile fun _ => trivial).endsFast.within.found _
  | deploy path =>
      exact (endsFast_onCurrent
        (Bench.accountable_deploy (fun _ => trivial) fun _ => trivial).endsFast).found _
  | symbolAddress path symbol =>
      apply (Image.failsFast_symbolAddress path symbol).endsFast.within.bind
      intro found
      cases found with
      | none => exact quiet fun _ => rfl
      | some address => exact quiet fun _ => rfl
  | markerCount path symbol => exact (Image.failsFast_markerCount _ _).endsFast.within.found _
  | checkMarkers path symbol => exact (Image.accountable_checkMarkers _ _).endsFast.within.found _
  | entryAddress path symbol => exact (Engine.accountable_entryAddress _ _).endsFast.within.found _
  | explore path symbol given =>
      apply Act.EndsFast.bind (quiet fun _ => rfl)
      exact fun options => (Engine.accountable_explore options fun _ => trivial).endsFast.within.found _
  | bound path symbol given =>
      apply Act.EndsFast.bind (quiet fun _ => rfl)
      exact fun options => (Engine.accountable_bound options fun _ => trivial).endsFast.within.found _
  | images path =>
      apply Act.EndsFast.bind (quiet fun _ => rfl)
      exact fun files => (quiet fun _ => rfl).found _
  | record path => exact (endsFast_onCurrent (Bench.failsFast_record _ _).endsFast).found _
  | beginSurvey path => exact (quiet fun _ => rfl).found _
  | nextRecord =>
      apply (endsFast_nextRecord settings).bind
      intro row
      cases row with
      | none => exact quiet fun _ => rfl
      | some record => exact quiet fun _ => rfl
  | printTable path =>
      exact (endsFast_onCurrent (Bench.failsFast_printTable settings path).endsFast).found _

end Step

/-! ## Runs from the console -/

namespace Console

theorem surveyWith_endsFast (settings : Settings) (session : Session) :
    (surveyWith settings session).EndsFast := by
  apply Act.EndsFast.closing
  exact .bind (.note _ _ _) fun _ => Bench.failsFast_printTable settings settings.corpus

theorem survey_endsFast (settings : Settings) : (survey settings).EndsFast := by
  apply Act.EndsFast.bind (Act.Accountable.endsFast (.note _ _ _))
  intro _
  apply Act.EndsFast.bind (Session.endsFast_attach _ _ _).within
  exact fun session => (surveyWith_endsFast settings session).within

theorem run_endsAtFailure (vars : Settings.Variables) (world : World) :
    let seen := run vars world
    EndsAtFailure (seen.ending = .ok 1 ∨ ∃ fault, seen.ending = .error fault) seen.events := by
  cases read : Settings.read vars with
  | error fault =>
      simp only [run, read]
      exact .of_calm .nil
  | ok settings =>
      obtain ⟨ending, -, events⟩ := program_run settings world
      have same : ((program settings).run world).events.filter Event.isExternal =
          external ((survey settings).run world).events := events
      simp only [run, read, transcript, same, ending]
      apply (survey_endsFast settings world).external.mono
      rintro ⟨fault, failed⟩
      rw [failed, exitOf]
      by_cases pipeline : fault.isA .pipeline = true
      · exact .inl (if_pos pipeline)
      · exact .inr ⟨fault, if_neg pipeline⟩

end Console

/-- A request or a program that fails is the last that a step or a run does, but for closing the session,
and leaves it without a result. -/
theorem stops_at_first_failure :
    (∀ (settings : Settings) (steps : List Step) (desk : Desk),
      ∀ taken ∈ Desk.takeAll settings steps desk,
        EndsAtFailure (∃ fault, taken.1 = .error fault) taken.2) ∧
    ∀ (vars : Settings.Variables) (world : World),
      let seen := Console.run vars world
      EndsAtFailure (seen.ending = .ok 1 ∨ ∃ fault, seen.ending = .error fault) seen.events := by
  constructor
  · intro settings steps
    induction steps with
    | nil => simp [Desk.takeAll]
    | cons step more ih =>
        intro desk taken mem
        rcases List.mem_cons.mp mem with rfl | mem
        · exact step.take_endsFast settings desk
        · exact ih _ taken mem
  · exact Console.run_endsAtFailure

end TickBound
