import TickBound.Proofs.FileWalk
import TickBound.Proofs.Programs
import TickBound.Proofs.Reconnection
import TickBound.Proofs.RecordAccounts

/-!
# Writing an image

A deployment goes on from stage to stage: the file is opened and is an image, the tool writes it, and the
connection is set up again. A stage that fails is the last one, and leaves what later stages work on as
it was.
-/

namespace TickBound

def FileTree.OpensImage (files : FileTree) (path : String) : Prop :=
  ∃ bytes, files.Opens (Path.normal path) bytes ∧ bytes.take 4 = [0x7F, 0x45, 0x4C, 0x46]

namespace Path

theorem not_mem_normal {path : String} {c : Char} (h : c ∉ path.toList) (point : c ≠ '.')
    (slash : c ≠ '/') : c ∉ (normal path).toList := by
  intro mem
  rcases mem_of_mem_normal mem with same | same | own
  · exact point same
  · exact slash same
  · exact h own

end Path

namespace Image

variable {settings : Settings} {files : FileTree} {path program : String} {more : List String}
  {bench : Bench} {fault : Fault}

/-! ## The file -/

theorem check_eq_ok (named : '\x00' ∉ path.toList) :
    check files path = .ok () ↔ files.OpensImage path := by
  have fine : (Path.normal path).toList.contains '\x00' = false := by
    simpa using Path.not_mem_normal named (by decide) (by decide)
  have same : files.OpensImage path ↔ ∃ bytes, files.readFile (Path.normal path) = .ok bytes ∧
      bytes.take magic.length = magic := by
    simp only [FileTree.readFile_eq_ok]
    rfl
  rw [same, check]
  simp only [fine]
  cases files.readFile (Path.normal path) with
  | error error => simp
  | ok bytes => by_cases begins : bytes.take magic.length = magic <;> simp [begins]

theorem exists_check_error (named : '\x00' ∉ path.toList) (other : ¬ files.OpensImage path) :
    ∃ fault, check files path = .error fault := by
  cases checked : check files path with
  | ok u => exact absurd ((check_eq_ok named).mp checked) other
  | error fault => exact ⟨fault, rfl⟩

/-- A file that may not be written is a failure to write the image. -/
theorem kind?_of_check (named : '\x00' ∉ path.toList) (h : check files path = .error fault) :
    fault.kind? = some .flash := by
  have fine : (Path.normal path).toList.contains '\x00' = false := by
    simpa using Path.not_mem_normal named (by decide) (by decide)
  rw [check] at h
  simp only [fine] at h
  cases read : files.readFile (Path.normal path) with
  | error error =>
      rw [read] at h
      cases h
      rfl
  | ok bytes =>
      rw [read] at h
      by_cases begins : bytes.take magic.length = magic
      · simp [begins] at h
      · simp [begins] at h
        rw [← h]
        rfl

/-! ## The stages -/

theorem deploy_of_unchecked (refused : check bench.host.files path = .error fault)
    (settings : Settings) : (deploy settings path).run bench = ⟨.error fault, [], bench⟩ := by
  have stopped : (Bench.onHost (write settings path)).run bench = ⟨.error fault, [], bench⟩ := by
    rw [Bench.onHost, Act.run_within, write_of_unchecked refused]
  rw [deploy, Act.run_bind, stopped, Course.follow_error]

theorem deploy_of_unwritten (made : settings.flashArguments path = .ok (program :: more))
    (checked : check bench.host.files path = .ok ())
    (failed : written settings path program bench.host.upcoming = .error fault) :
    ∃ notes, external notes = [] ∧
      (deploy settings path).run bench =
        ⟨.error fault,
          notes ++ [.ran (program :: more) none (some settings.flashTimeout) bench.host.upcoming],
          ⟨bench.host.skip 1, bench.connection⟩⟩ := by
  obtain ⟨notes, silent, run⟩ := write_of_checked made checked
  refine ⟨notes, silent, ?_⟩
  rw [deploy, Act.run_bind, Bench.onHost, Act.run_within, run, failed, Course.follow_error]

theorem deploy_of_written (made : settings.flashArguments path = .ok (program :: more))
    (checked : check bench.host.files path = .ok ())
    (succeeded : bench.host.upcoming.Succeeds) :
    ∃ notes, external notes = [] ∧
      (deploy settings path).run bench =
        ⟨(Session.reconnect.run bench.connection).result.map fun _ => (),
          notes ++ .ran (program :: more) none (some settings.flashTimeout) bench.host.upcoming ::
            (Session.reconnect.run bench.connection).events,
          ⟨bench.host.skip 1, (Session.reconnect.run bench.connection).final⟩⟩ := by
  obtain ⟨notes, silent, run⟩ := write_of_checked made checked
  refine ⟨notes, silent, ?_⟩
  rw [deploy, Act.run_bind, Bench.onHost, Act.run_within, run, written_eq_ok.mpr succeeded,
    Course.follow_ok, Act.run_bind, Bench.onConnection, Act.run_within]
  cases (Session.reconnect.run bench.connection).result with
  | error fault => simp [Course.follow, Except.map]
  | ok status => simp [Course.follow, Except.map]

end Image

/-- What can be seen from outside is found among all that happens. -/
theorem mem_external_iff {event : Event} {events : List Event} (h : event.isExternal = true) :
    event ∈ external events ↔ event ∈ events := by
  simp [external, h]

namespace Session

/-- An attempt is one request. -/
theorem external_reconnect (c : Connection) : external (reconnect.run c).events = [c.sent .reset] := by
  cases told : answer c.session.url c.link.next.1 with
  | error fault =>
      rw [reconnect_of_unanswered told]
      rfl
  | ok status =>
      rw [reconnect_of_answer told]
      rfl

theorem reconnect_eq_ok {c : Connection} {status : Json.Members} :
    (reconnect.run c).result = .ok status ↔
      ∃ text, c.link.next.1 = .answered 200 text ∧ ReportsStatusOf text status := by
  have answered : answer c.session.url c.link.next.1 = .ok status ↔ _ := answer_eq_ok
  rw [← answered]
  cases told : answer c.session.url c.link.next.1 with
  | error fault => simp [reconnect_of_unanswered told]
  | ok other => simp [reconnect_of_answer told]

end Session

namespace Image

variable {settings : Settings} {path program : String} {more : List String} {bench : Bench}

theorem map_eq_ok {α : Type} {result : Except Fault α} :
    (result.map fun _ => ()) = .ok () ↔ ∃ a, result = .ok a := by
  cases result <;> simp [Except.map]

/-- Behind a tool that succeeds the reply decides. -/
theorem deploy_connects (made : settings.flashArguments path = .ok (program :: more))
    (checked : check bench.host.files path = .ok ()) (succeeded : bench.host.upcoming.Succeeds) :
    external ((deploy settings path).run bench).events =
        [.ran (program :: more) none (some settings.flashTimeout) bench.host.upcoming,
          bench.connection.sent .reset] ∧
      (((deploy settings path).run bench).result = .ok () ↔ ∃ text status,
        bench.connection.link.next.1 = .answered 200 text ∧ ReportsStatusOf text status) := by
  obtain ⟨notes, silent, run⟩ := deploy_of_written made checked succeeded
  rw [run]
  constructor
  · rw [external_append, silent, ← Session.external_reconnect]
    rfl
  · rw [map_eq_ok]
    simp only [Session.reconnect_eq_ok]
    exact exists_comm

/-- A tool that does not succeed is the last that is done. -/
theorem deploy_stops (made : settings.flashArguments path = .ok (program :: more))
    (checked : check bench.host.files path = .ok ()) (failed : ¬ bench.host.upcoming.Succeeds) :
    external ((deploy settings path).run bench).events =
        [.ran (program :: more) none (some settings.flashTimeout) bench.host.upcoming] ∧
      ((deploy settings path).run bench).final.connection = bench.connection ∧
      ∃ fault, ((deploy settings path).run bench).result = .error fault ∧
        (bench.host.upcoming ≠ .denied → fault.kind? = some .flash) := by
  obtain ⟨fault, refused⟩ := exists_written_error failed settings path program
  obtain ⟨notes, silent, run⟩ := deploy_of_unwritten made checked refused
  rw [run]
  constructor
  · rw [external_append, silent]
    rfl
  · exact ⟨rfl, fault, rfl, kind?_of_written refused⟩

/-- A deployment is a matter of three stages. The tool is started, once, just for a file that can be
opened and begins as an image; the request to set up the connection follows, once, just behind a tool that
succeeds; and the deployment succeeds if in addition the reply reports the status of a connected target. A
file that is no such image, and a tool that cannot be found, runs out of time or does not succeed, are
failures to write the image, with which nothing is sent and the session is what it was; and before such a
file nothing is done at all. -/
theorem deploy_by_stage (made : settings.flashArguments path = .ok (program :: more))
    (named : '\x00' ∉ path.toList) (bench : Bench) :
    let course := (deploy settings path).run bench
    let image := bench.host.files.OpensImage path
    let tool := bench.host.upcoming
    let flashed : Event := .ran (program :: more) none (some settings.flashTimeout) tool
    let reset := bench.connection.sent .reset
    (external course.events = [] ∨ external course.events = [flashed] ∨
      external course.events = [flashed, reset]) ∧
    (flashed ∈ course.events ↔ image) ∧
    (reset ∈ course.events ↔ image ∧ tool.Succeeds) ∧
    (course.result = .ok () ↔ image ∧ tool.Succeeds ∧ ∃ text status,
      bench.connection.link.next.1 = .answered 200 text ∧ ReportsStatusOf text status) ∧
    (¬ image → course.events = [] ∧ course.final = bench ∧
      ∃ fault, course.result = .error fault ∧ fault.kind? = some .flash) ∧
    (image → ¬ tool.Succeeds → course.final.connection = bench.connection ∧
      ∃ fault, course.result = .error fault ∧ (tool ≠ .denied → fault.kind? = some .flash)) := by
  intro course image tool flashed reset
  have apart : flashed ≠ reset := nofun
  have flashes : flashed ∈ external course.events ↔ flashed ∈ course.events := mem_external_iff rfl
  have resets : reset ∈ external course.events ↔ reset ∈ course.events := mem_external_iff rfl
  rw [← flashes, ← resets]
  by_cases opened : image
  · have checked := (check_eq_ok named).mpr opened
    by_cases succeeded : tool.Succeeds
    · have connects := deploy_connects made checked succeeded
      have done : external course.events = [flashed, reset] := connects.1
      have decided : course.result = .ok () ↔ _ := connects.2
      rw [done, decided]
      refine ⟨.inr (.inr rfl), ?_, ?_, ?_, ?_, ?_⟩
      · simp [opened]
      · simp [opened, succeeded]
      · simp [opened, succeeded]
      · exact fun other => absurd opened other
      · exact fun _ other => absurd succeeded other
    · have stops := deploy_stops made checked succeeded
      have done : external course.events = [flashed] := stops.1
      obtain ⟨fault, failed, kind⟩ := stops.2.2
      replace failed : course.result = .error fault := failed
      rw [done, failed]
      refine ⟨.inr (.inl rfl), ?_, ?_, ?_, ?_, ?_⟩
      · simp [opened]
      · simp [succeeded, apart.symm]
      · simp [succeeded]
      · exact fun other => absurd opened other
      · exact fun _ _ => ⟨stops.2.1, fault, rfl, kind⟩
  · obtain ⟨fault, refused⟩ := exists_check_error named opened
    have whole : course = _ := deploy_of_unchecked refused settings
    rw [whole]
    refine ⟨.inl rfl, ?_, ?_, ?_, ?_, ?_⟩
    · simp [opened, external]
    · simp [opened, external]
    · simp [opened]
    · exact fun _ => ⟨rfl, rfl, fault, rfl, kind?_of_check named refused⟩
    · exact fun other => absurd other opened

/-- An image is written under the name of a link to it, and the connection is set up behind it. -/
theorem deploy_by_stage_linked :
    let bench : Bench :=
      ⟨⟨[.ended 0 "" ""], [], { nodes := [(["a.elf"], .file magic), (["b.elf"], .link "a.elf")] }⟩,
        ⟨{ answers := [⟨.answered 200 Bench.welcoming, 0⟩] }, { url := "http://192.168.4.1/api" }⟩⟩
    Settings.defaults.flashArguments "b.elf" =
        .ok ["probe-rs", "download", "--chip", "RP2040", "--verify", "b.elf"] ∧
      '\x00' ∉ "b.elf".toList ∧ bench.host.files.OpensImage "b.elf" ∧
      ((deploy Settings.defaults "b.elf").run bench).result = .ok () := by
  intro bench
  have made : Settings.defaults.flashArguments "b.elf" =
      .ok ["probe-rs", "download", "--chip", "RP2040", "--verify", "b.elf"] := rfl
  have named : '\x00' ∉ "b.elf".toList := by decide
  have read : bench.host.files.readFile (Path.normal "b.elf") = .ok magic :=
    Bench.eq_ok_of_toOption (by decide +kernel)
  have image : bench.host.files.OpensImage "b.elf" := ⟨magic, FileTree.readFile_eq_ok.mp read, rfl⟩
  obtain ⟨status, told⟩ := Bench.statusIn_welcoming
  have answered := (Session.answer_fine "http://192.168.4.1/api" Bench.welcoming).trans told
  obtain ⟨text, came, reports⟩ := Session.answer_eq_ok.mp answered
  have stages := deploy_by_stage made named bench
  exact ⟨made, named, image, stages.2.2.2.1.mpr ⟨image, rfl, text, status, came, reports⟩⟩

end Image

end TickBound
