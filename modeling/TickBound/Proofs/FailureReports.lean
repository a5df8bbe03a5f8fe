import TickBound.Proofs.RecordAccounts
import TickBound.Proofs.SettingFields
import TickBound.Proofs.SurveyFold

/-!
# Failures are reported

A fault of the measurement ends a run with the exit code 1 and a line on the error output. Some faults
are none of the measurement and leave the program instead: those of a reply or a command that nobody
expected, of an image that cannot be measured under the settings, and of an entry that cannot be looked
at.
-/

namespace TickBound

/-! ## The corpus -/

namespace Corpus

variable {files : FileTree} {directory : String} {fault : Fault}

theorem fault_of_walk {found : List FileTree.Entry} (h : (walk files directory found).2 = some fault) :
    ∃ cause, fault = .outside (.file cause) := by
  induction found with
  | nil => cases h
  | cons entry more ih =>
      cases looked : isImage files directory entry with
      | ok image =>
          cases image with
          | false => exact ih (by simpa only [walk, looked] using h)
          | true => exact ih (by simpa only [walk, looked] using h)
      | error other =>
          obtain rfl : other = fault := by simpa [walk, looked] using h
          unfold isImage at looked
          split at looked
          · cases looked
          · cases looked
          · obtain ⟨error, -, rfl⟩ := mapError_eq_error.mp looked
            exact ⟨_, rfl⟩

/-- A corpus ends before its end at a name that is none, at a directory that cannot be read, or at an
entry that cannot be looked at. -/
theorem fault_of_yielded (h : (yielded files directory).2 = some fault) :
    fault.isA .pipeline = true ∨ '\x00' ∈ directory.toList ∨
      ∃ cause, fault = .outside (.file cause) := by
  cases listed : entries files directory with
  | ok found =>
      have walked : (walk files directory found).2 = some fault := by
        simpa only [yielded, listed] using h
      exact .inr (.inr (fault_of_walk walked))
  | error other =>
      obtain rfl : other = fault := by simpa [yielded, listed] using h
      unfold entries at listed
      split at listed
      · next null => exact .inr (.inl (List.contains_iff_mem.mp null))
      · obtain ⟨error, -, rfl⟩ := mapError_eq_error.mp listed
        exact .inl rfl

end Corpus

/-! ## Runs -/

/-- What slips through can be seen from outside. -/
theorem Event.Slips.isExternal {event : Event} (h : event.Slips) : event.isExternal = true := by
  cases event with
  | requested | closed | slept | ran => rfl
  | noted => exact h.elim
  | printed => exact h.elim

/-- A course whose events do not slip through, and for which nothing was amiss, ends at no fault but one
of the measurement. -/
theorem Course.StopsAtFailure.held {σ α : Type} {amiss : Prop} {course : Course σ α} {fault : Fault}
    (h : course.StopsAtFailure (Accounts amiss)) (failed : course.result = .error fault)
    (fine : ¬ amiss) (served : ∀ event ∈ external course.events, ¬ event.Slips) :
    fault.isA .pipeline = true := by
  rcases h.blamed failed with ⟨-, accounts⟩ | ⟨calm, last, split, -, -, accounts⟩
  · rcases accounts with held | stuck | ⟨event, none, -⟩
    · exact held
    · exact absurd stuck fine
    · cases none
  · rcases accounts with held | stuck | ⟨event, same, slips⟩
    · exact held
    · exact absurd stuck fine
    · obtain rfl := Option.some.inj same
      have mem : last ∈ external course.events := by
        rw [split]
        exact List.mem_filter.mpr ⟨by simp, slips.isExternal⟩
      exact absurd slips (served last mem)

namespace Console

/-- Nothing goes wrong that a run has no report for: no event slips through, the directory has a name,
its entries can be looked at, and the images can be measured under the settings. -/
structure Covered (settings : Settings) (files : FileTree) (events : List Event) : Prop where
  served : ∀ event ∈ events, ¬ event.Slips
  named : '\x00' ∉ settings.corpus.toList
  entries : ∀ cause, (Corpus.yielded files settings.corpus).2 ≠ some (.outside (.file cause))
  images : ∀ path ∈ (Corpus.yielded files settings.corpus).1, settings.Suits path

variable {settings : Settings} {world : World} {fault : Fault}

theorem fault_of_opening (h : (opening settings world.link).result = .error fault)
    (served : ∀ event ∈ external (opening settings world.link).events, ¬ event.Slips) :
    fault.isA .pipeline = true := by
  unfold opening at h served
  by_cases serves : world.link.next.1.Serves .reset
  · obtain ⟨status, attached | ⟨other, refused⟩⟩ := Session.attach_of_serves settings.probe
      (some settings.target) settings.httpTimeout serves
    · rw [attached] at h
      cases h
    · rw [refused] at h
      cases h
      rfl
  · by_cases tells : world.link.next.1.TellsStatus
    · obtain ⟨other, refused⟩ := Session.attach_of_refusal settings.probe (some settings.target)
        settings.httpTimeout serves tells
      rw [refused] at h
      cases h
      rfl
    · obtain ⟨other, failed⟩ := Session.attach_of_other settings.probe (some settings.target)
        settings.httpTimeout tells
      have sent : Session.greeting settings.probe settings.httpTimeout world.link ∈
          external ((Session.attach settings.probe (some settings.target)
            settings.httpTimeout).run world.link).events := by
        rw [failed]
        exact .head _
      exact absurd tells (served _ sent)

theorem fault_of_ends {bench : Bench} {records : List Record} {events : List Event}
    {result : Except Fault Unit} (nonneg : 0 ≤ settings.calibrationOffset) {files : FileTree}
    (h : Ends settings bench (Corpus.yielded files settings.corpus).1
      (Corpus.yielded files settings.corpus).2 records events result)
    (covered : Covered settings files (external events)) (failed : result = .error fault) :
    fault.isA .pipeline = true := by
  cases h with
  | through series none => cases failed
  | stopped series stop =>
      cases failed
      rcases Corpus.fault_of_yielded stop with held | null | ⟨cause, rfl⟩
      · exact held
      · exact absurd null covered.named
      · exact absurd stop (covered.entries cause)
  | @failed done rest path _ _ more middle _ _ split series taken =>
      cases failed
      have suits : settings.Suits path := covered.images path (by simp [split])
      have accounts : (Bench.record settings path).Accountable False :=
        Bench.accountable_record (fun unsuited => unsuited suits) (Int.not_lt.mpr nonneg)
      have stopped := accounts middle
      rw [taken] at stopped
      apply stopped.held rfl id
      intro event mem
      apply covered.served event
      rw [external_append]
      exact List.mem_append_right _ mem

/-- A fault of a run that is covered is one of the measurement. -/
theorem fault_of_survey (nonneg : 0 ≤ settings.calibrationOffset)
    (covered : Covered settings world.host.files (external ((survey settings).run world).events))
    (failed : ((survey settings).run world).result = .error fault) : fault.isA .pipeline = true := by
  cases h : (opening settings world.link).result with
  | error other =>
      obtain ⟨result, -, same⟩ := survey_of_error h
      cases result.symm.trans failed
      apply fault_of_opening h
      rw [← same]
      exact covered.served
  | ok session =>
      obtain ⟨records, events, ends, -, same, -⟩ := survey_ends h
      apply fault_of_ends nonneg ends ?_ failed
      have fewer : ∀ event ∈ external events, ¬ event.Slips := by
        intro event mem
        apply covered.served event
        rw [same]
        simp [mem]
      exact ⟨fewer, covered.named, covered.entries, covered.images⟩

/-! ## The error output -/

theorem shownNotes_append (threshold : Level) (first second : List Event) :
    shownNotes threshold (first ++ second) =
      shownNotes threshold first ++ shownNotes threshold second :=
  List.filterMap_append

/-- An error is shown whatever the level of the settings. -/
theorem shownNotes_error (threshold : Level) (source : Source) (text : String) :
    shownNotes threshold [.noted .error source text] = [text] := by
  cases threshold <;> rfl

theorem program_of_held (failed : ((survey settings).run world).result = .error fault)
    (held : fault.isA .pipeline = true) :
    ((program settings).run world).events =
      ((survey settings).run world).events ++ [.noted .error .console (errorLine fault.message)] := by
  rw [program_of_error failed, reportFault, if_pos held]
  rfl

/-- A run that is covered ends with the exit code 0 or 1, and whenever the exit code is 1 the last line
of the error output is the report of a fault of the measurement. -/
theorem run_reports (vars : Settings.Variables) (world : World) :
    let seen := run vars world
    ((∀ settings, Settings.read vars = .ok settings →
        Covered settings world.host.files seen.events) →
      seen.ending = .ok 0 ∨ seen.ending = .ok 1) ∧
    (seen.ending = .ok 1 →
      ∃ (lines : List String) (fault : Fault), fault.isA .pipeline = true ∧
        seen.errors = linesText (lines ++ [errorLine fault.message])) := by
  cases read : Settings.read vars with
  | error fault =>
      simp only [run, read]
      exact ⟨fun _ => .inr trivial, fun _ => ⟨[], .settings fault, rfl, rfl⟩⟩
  | ok settings =>
      obtain ⟨ending, -, events⟩ := program_run settings world
      have same : ((program settings).run world).events.filter Event.isExternal =
          external ((survey settings).run world).events := events
      simp only [run, read, transcript, same, ending]
      constructor
      · intro covered
        have nonneg := Settings.nonneg_of_read read
        cases result : ((survey settings).run world).result with
        | ok u => exact .inl rfl
        | error fault =>
            have held := fault_of_survey nonneg (covered settings rfl) result
            exact .inr (if_pos held)
      · intro one
        obtain ⟨fault, failed, held⟩ := exitOf_eq_one.mp one
        refine ⟨shownNotes (threshold settings) ((survey settings).run world).events, fault, held, ?_⟩
        rw [program_of_held failed held, shownNotes_append, shownNotes_error]

def onlyProbe : Settings.Variables := fun name =>
  if name = Settings.Variable.probe.key then some "192.168.4.1" else none

theorem read_onlyProbe : Settings.read onlyProbe = .ok { probe := "192.168.4.1" } := by rfl

def unplugged : World where
  host := {
    outcomes := []
    missingTools := []
    files := { nodes := [(["test_binarys", "a.elf"], .file Image.magic)] } }
  link := { answers := [] }

theorem run_reports_unplugged :
    let seen := run onlyProbe unplugged
    Covered { probe := "192.168.4.1" } unplugged.host.files seen.events ∧
      (seen.ending = .ok 0 ∨ seen.ending = .ok 1) ∧
      ∃ (lines : List String) (fault : Fault), fault.isA .pipeline = true ∧
        seen.errors = linesText (lines ++ [errorLine fault.message]) := by
  have events : (run onlyProbe unplugged).events =
      [.requested "http://192.168.4.1/api" .reset 5 (.refused "no more replies"), .closed] := by rfl
  have yielded : Corpus.yielded unplugged.host.files "test_binarys" =
      (["test_binarys/a.elf"], none) := by rfl
  have suits : Settings.Suits { probe := "192.168.4.1" } "test_binarys/a.elf" := by
    refine ⟨by decide, ⟨_, _, rfl⟩, ⟨_, _, rfl⟩, ?_⟩
    have small := Number.lt_leastTooLong
    show (6 : Int) < Number.leastTooLong
    generalize Number.leastTooLong = long at small ⊢
    omega
  have covered : Covered { probe := "192.168.4.1" } unplugged.host.files
      (run onlyProbe unplugged).events := by
    refine ⟨?_, by decide, ?_, ?_⟩
    · rw [events]
      simp [Event.Slips, Reply.TellsStatus]
    · rw [yielded]
      intro cause stop
      cases stop
    · rw [yielded]
      simpa using suits
  obtain ⟨ends, reported⟩ := run_reports onlyProbe unplugged
  refine ⟨covered, ends ?_, reported rfl⟩
  intro settings read
  rw [read_onlyProbe] at read
  cases read
  exact covered

def garbled : World :=
  { unplugged with link := Session.answeringList }

/-- A reply of which no status can be read makes a run end with a fault that nobody reports. -/
theorem run_unreported : (run onlyProbe garbled).ending = .error (.outside .statusShape) := by
  let settings : Settings := { probe := "192.168.4.1" }
  let c : Connection :=
    ⟨garbled.link, { url := Session.address settings.probe, timeout := settings.httpTimeout }⟩
  have untold := Session.statusIn_list (Session.address settings.probe)
  have failed : (opening settings garbled.link).result = .error (.outside .statusShape) := by
    rw [opening, Session.attach_of_error _ _ _ (Session.reconnect_of_untold (c := c) rfl untold)]
  have result : ((survey settings).run garbled).result = .error (.outside .statusShape) :=
    (survey_of_error failed).1
  have ending := (program_run settings garbled).1
  rw [result] at ending
  rw [run, read_onlyProbe]
  exact ending

end Console

end TickBound
