import TickBound.Console
import TickBound.Proofs.BenchFrame
import TickBound.Proofs.Phases

/-!
# A survey as a fold

A survey takes the records of the images that a corpus yields, one after another, each on the bench that
the last one left. It ends with the corpus or at the first fault, and its lines are the heading and the
rows of the records that it took.
-/

namespace TickBound

namespace Corpus

/-- The images among the entries, up to the first entry that cannot be looked at. -/
def walk (files : FileTree) (directory : String) :
    List FileTree.Entry → List String × Option Fault
  | [] => ([], none)
  | entry :: more =>
      match isImage files directory entry with
      | .error fault => ([], some fault)
      | .ok false => walk files directory more
      | .ok true =>
          (Path.normal (Path.entry directory entry.name) :: (walk files directory more).1,
            (walk files directory more).2)

/-- The images that a corpus yields, and the fault that ends it before its end. -/
def yielded (files : FileTree) (directory : String) : List String × Option Fault :=
  match entries files directory with
  | .error fault => ([], some fault)
  | .ok found => walk files directory found

theorem imagesAmong_eq_walk (files : FileTree) (directory : String) (found : List FileTree.Entry) :
    imagesAmong files directory found =
      (walk files directory found).2.elim (.ok (walk files directory found).1) .error := by
  induction found with
  | nil => rfl
  | cons entry more ih =>
      cases h : isImage files directory entry with
      | error fault =>
          rw [imagesAmong, walk, h]
          rfl
      | ok image =>
          rw [imagesAmong, walk, h]
          cases image with
          | false => exact ih
          | true =>
              simp only [bind, Except.bind, if_true, ih]
              cases (walk files directory more).2 with
              | none => rfl
              | some fault => rfl

theorem images_eq_yielded (files : FileTree) (directory : String) :
    images files directory =
      (yielded files directory).2.elim (.ok (yielded files directory).1) .error := by
  cases h : entries files directory with
  | error fault =>
      rw [images, yielded, h]
      rfl
  | ok found =>
      rw [images, yielded, h]
      exact imagesAmong_eq_walk files directory found

end Corpus

/-- Records taken of images one after another, each on the bench that the last one left. -/
inductive Series (settings : Settings) :
    Bench → List String → List Record → List Event → Bench → Prop where
  | nil (bench : Bench) : Series settings bench [] [] [] bench
  | cons {bench middle last : Bench} {path : String} {paths : List String} {record : Record}
      {records : List Record} {events more : List Event} :
      (Bench.record settings path).run bench = ⟨.ok record, events, middle⟩ →
        Series settings middle paths records more last →
          Series settings bench (path :: paths) (record :: records) (events ++ more) last

/-- How taking the records of the images ends, with the records and events up to that. -/
inductive Ends (settings : Settings) (bench : Bench) (paths : List String) (stop : Option Fault) :
    List Record → List Event → Except Fault Unit → Prop where
  /-- All images were measured, and there are no more of them. -/
  | through {records : List Record} {events : List Event} {last : Bench} :
      Series settings bench paths records events last → stop = none →
        Ends settings bench paths stop records events (.ok ())
  /-- All images were measured, but the next one could not be found out. -/
  | stopped {records : List Record} {events : List Event} {last : Bench} {fault : Fault} :
      Series settings bench paths records events last → stop = some fault →
        Ends settings bench paths stop records events (.error fault)
  /-- An image could not be measured. -/
  | failed {done rest : List String} {path : String} {records : List Record}
      {events more : List Event} {middle last : Bench} {fault : Fault} :
      paths = done ++ path :: rest → Series settings bench done records events middle →
        (Bench.record settings path).run middle = ⟨.error fault, more, last⟩ →
          Ends settings bench paths stop records (events ++ more) (.error fault)

theorem Series.length_eq {settings : Settings} {bench last : Bench} {paths : List String}
    {records : List Record} {events : List Event}
    (h : Series settings bench paths records events last) : records.length = paths.length := by
  induction h with
  | nil => rfl
  | cons _ _ ih => simpa using ih

/-- There is no fault exactly if every image has its record and no fault ended the corpus. -/
theorem Ends.ok_iff {settings : Settings} {bench : Bench} {paths : List String}
    {stop : Option Fault} {records : List Record} {events : List Event} {result : Except Fault Unit}
    (h : Ends settings bench paths stop records events result) :
    result = .ok () ↔ records.length = paths.length ∧ stop = none := by
  cases h with
  | through series none => simp [series.length_eq, none]
  | stopped series some => simp [some]
  | failed split series failed =>
      have fewer : records.length < paths.length := by
        rw [series.length_eq, split, List.length_append, List.length_cons]
        omega
      simp only [reduceCtorEq, false_iff, not_and]
      omega

theorem Ends.cons {settings : Settings} {bench middle : Bench} {path : String} {paths : List String}
    {stop : Option Fault} {record : Record} {records : List Record} {events more : List Event}
    {result : Except Fault Unit}
    (first : (Bench.record settings path).run bench = ⟨.ok record, events, middle⟩)
    (rest : Ends settings middle paths stop records more result) :
    Ends settings bench (path :: paths) stop (record :: records) (events ++ more) result := by
  cases rest with
  | through series none => exact .through (.cons first series) none
  | stopped series some => exact .stopped (.cons first series) some
  | failed split series failed =>
      rw [← List.append_assoc]
      exact .failed (by rw [split]; rfl) (.cons first series) failed

namespace Console

@[simp] theorem printedLines_append (first second : List Event) :
    printedLines (first ++ second) = printedLines first ++ printedLines second :=
  List.filterMap_append

@[simp] theorem printedLines_noted (level : Level) (source : Source) (text : String)
    (events : List Event) :
    printedLines (.noted level source text :: events) = printedLines events := rfl

@[simp] theorem printedLines_closed (events : List Event) :
    printedLines (.closed :: events) = printedLines events := rfl

@[simp] theorem printedLines_nil : printedLines [] = [] := rfl

theorem printedLines_of_isWork {events : List Event} (h : ∀ event ∈ events, event.IsWork) :
    printedLines events = [] := by
  refine List.filterMap_eq_nil_iff.mpr fun event mem => ?_
  have work := h event mem
  cases event with
  | printed line => exact work.elim
  | requested | closed | slept | ran | noted => rfl

end Console

theorem not_closed_of_isWork {events : List Event} (h : ∀ event ∈ events, event.IsWork) :
    .closed ∉ external events :=
  fun mem => h .closed (List.mem_filter.mp mem).1

namespace Bench

open Console (printedLines)

variable {settings : Settings} {directory : String} {entry : FileTree.Entry}
  {more : List FileTree.Entry} {bench : Bench}

theorem printAmong_of_error {fault : Fault}
    (h : Corpus.isImage bench.host.files directory entry = .error fault) :
    (printAmong settings directory (entry :: more)).run bench = ⟨.error fault, [], bench⟩ := by
  rw [printAmong, Act.run_bind, Act.run_reads, Course.follow_ok, h]
  rfl

theorem printAmong_of_other (h : Corpus.isImage bench.host.files directory entry = .ok false) :
    (printAmong settings directory (entry :: more)).run bench =
      (printAmong settings directory more).run bench := by
  rw [printAmong, Act.run_bind, Act.run_reads, Course.follow_ok, h]
  rfl

theorem printAmong_of_image (h : Corpus.isImage bench.host.files directory entry = .ok true) :
    (printAmong settings directory (entry :: more)).run bench =
      ((record settings (Path.normal (Path.entry directory entry.name))).run bench).follow
        fun record middle =>
          ⟨((printAmong settings directory more).run middle).result,
            .printed record.text :: ((printAmong settings directory more).run middle).events,
            ((printAmong settings directory more).run middle).final⟩ := by
  rw [printAmong, Act.run_bind, Act.run_reads, Course.follow_ok, h]
  rfl

/-- Printing the rows of the images among the entries is taking their records. -/
theorem printAmong_ends (settings : Settings) (directory : String) (found : List FileTree.Entry)
    (bench : Bench) :
    let course := (printAmong settings directory found).run bench
    let images := Corpus.walk bench.host.files directory found
    ∃ records events, Ends settings bench images.1 images.2 records events course.result ∧
      printedLines course.events = records.map Record.text ∧
      external course.events = external events ∧ ∀ event ∈ events, event.IsWork := by
  induction found generalizing bench with
  | nil => exact ⟨[], [], .through (.nil bench) rfl, rfl, rfl, by simp⟩
  | cons entry more ih =>
      cases h : Corpus.isImage bench.host.files directory entry with
      | error fault =>
          simp only [printAmong_of_error h, Corpus.walk, h]
          exact ⟨[], [], .stopped (.nil bench) rfl, rfl, rfl, by simp⟩
      | ok image =>
          cases image with
          | false =>
              simp only [printAmong_of_other h, Corpus.walk, h]
              exact ih bench
          | true =>
              obtain ⟨kept, work⟩ :=
                keepsFrame_record settings (Path.normal (Path.entry directory entry.name)) bench
              simp only [printAmong_of_image h, Corpus.walk, h]
              generalize taken :
                (record settings (Path.normal (Path.entry directory entry.name))).run bench = course
                at kept work ⊢
              obtain ⟨result, events, middle⟩ := course
              cases result with
              | error fault =>
                  exact ⟨[], [] ++ events, .failed rfl (.nil bench) taken,
                    Console.printedLines_of_isWork work, rfl, work⟩
              | ok record =>
                  obtain ⟨records, rest, ends, rows, same, work'⟩ := ih middle
                  -- the images behind this one are those of the walk, as the files are the same
                  have files : middle.host.files = bench.host.files := congrArg Prod.fst kept
                  rw [files] at ends
                  refine ⟨record :: records, events ++ rest, .cons taken ends, ?_, ?_, ?_⟩
                  · rw [Course.follow_ok, Console.printedLines_append,
                      Console.printedLines_of_isWork work, List.nil_append, List.map_cons, ← rows]
                    rfl
                  · rw [Course.follow_ok, external_append, external_append, ← same]
                    rfl
                  · intro event mem
                    rcases List.mem_append.mp mem with mem | mem
                    · exact work event mem
                    · exact work' event mem

/-- Printing a table is printing the heading, and then the rows of the images that the corpus yields. -/
theorem printTable_ends (settings : Settings) (directory : String) (bench : Bench) :
    let course := (printTable settings directory).run bench
    let images := Corpus.yielded bench.host.files directory
    ∃ records events, Ends settings bench images.1 images.2 records events course.result ∧
      printedLines course.events = Record.heading :: records.map Record.text ∧
      external course.events = external events ∧ ∀ event ∈ events, event.IsWork := by
  cases h : Corpus.entries bench.host.files directory with
  | error fault =>
      simp only [printTable, Act.run_bind, Act.run_emit, Act.run_reads, Course.follow_ok, h,
        Act.run_ofExcept, Course.follow_error, Corpus.yielded]
      exact ⟨[], [], .stopped (.nil bench) rfl, rfl, rfl, by simp⟩
  | ok found =>
      obtain ⟨records, events, ends, rows, same, work⟩ :=
        printAmong_ends settings directory found bench
      simp only [printTable, Act.run_bind, Act.run_emit, Act.run_reads, Course.follow_ok, h,
        Act.run_ofExcept, Corpus.yielded]
      exact ⟨records, events, ends, congrArg (Record.heading :: ·) rows, same, work⟩

end Bench

/-! ## Sessions -/

namespace Session

/-- Nothing is printed while a session is opened, also if it fails. -/
theorem printedLines_attach (target : String) (expected : Option String) (timeout : Float)
    (link : Link) :
    Console.printedLines ((attach target expected timeout).run link).events = [] := by
  have closes : ∀ {σ : Type}, (close : Act σ Unit).Respects (fun _ => ())
      fun _ event => ∀ line, event ≠ .printed line := .emit (by simp)
  have connects : (Act.onFault (·.isA .attach) reconnect close).Respects (fun _ => ())
      fun _ event => ∀ line, event ≠ .printed line := by
    refine .onFault (keepsRoute_reconnect.forget ?_) closes
    rintro carries event work line rfl
    exact work
  have attaches : (attach target expected timeout).Respects (fun _ => ())
      fun _ event => ∀ line, event ≠ .printed line := by
    refine .bind (fun link => ⟨rfl, (connects _).2⟩) fun ⟨status, session⟩ => ?_
    cases expected with
    | none => exact .pure _
    | some name => exact .ite (.pure _) (closes.bind fun _ => .fail _)
  refine List.filterMap_eq_nil_iff.mpr fun event mem => ?_
  have silent := (attaches link).2 event mem
  cases event with
  | printed line => exact absurd rfl (silent line)
  | requested | closed | slept | ran | noted => rfl

theorem attach_isWork {target name : String} {timeout : Float} {link : Link} {session : Session}
    (h : ((attach target (some name) timeout).run link).result = .ok session) :
    ∀ event ∈ ((attach target (some name) timeout).run link).events, event.IsWork := by
  rw [attach, Act.run_bind] at h ⊢
  rw [Course.follow_result_ok] at h
  obtain ⟨⟨status, opened⟩, ok, rest⟩ := h
  rw [Course.follow_of_ok ok]
  have quiet := (keepsRoute_reconnect ⟨link, { url := address target, timeout }⟩).2
  rw [← Act.run_onFault_of_ok (result_of_opening ok).1] at quiet
  intro event mem
  rcases List.mem_append.mp mem with mem | mem
  · exact quiet event mem
  · dsimp only at rest mem
    split at rest
    · next named =>
        rw [if_pos named] at mem
        cases mem
    · cases rest

end Session

namespace Console

def exitOf : Except Fault Unit → Except Fault Nat
  | .ok () => .ok 0
  | .error fault => if fault.isA .pipeline then .ok 1 else .error fault

/-- A survey on a session prints the table of its corpus and closes the session. -/
theorem surveyWith_ends (settings : Settings) (session : Session) (bench : Bench) :
    let course := (surveyWith settings session).run bench
    let images := Corpus.yielded bench.host.files settings.corpus
    ∃ records events, Ends settings bench images.1 images.2 records events course.result ∧
      printedLines course.events = Record.heading :: records.map Record.text ∧
      external course.events = external events ++ [.closed] ∧ .closed ∉ external events := by
  obtain ⟨records, events, ends, rows, same, work⟩ :=
    Bench.printTable_ends settings settings.corpus bench
  refine ⟨records, events, ends, ?_, ?_, not_closed_of_isWork work⟩
  · rw [← rows]
    simp [surveyWith, Act.ensuring, Session.close]
  · rw [← same]
    simp [surveyWith, Act.ensuring, Session.close]
    rfl

theorem exitOf_eq_zero {result : Except Fault Unit} : exitOf result = .ok 0 ↔ result = .ok () := by
  cases result with
  | ok u => simp [exitOf]
  | error fault =>
      simp only [exitOf, reduceCtorEq, iff_false]
      split <;> simp

theorem exitOf_eq_one {result : Except Fault Unit} :
    exitOf result = .ok 1 ↔ ∃ fault, result = .error fault ∧ fault.isA .pipeline = true := by
  cases result with
  | ok u => simp [exitOf]
  | error fault =>
      simp only [exitOf, Except.error.injEq, exists_eq_left']
      split
      · next pipeline => simp [pipeline]
      · next outside => simp [outside]

theorem program_of_ok {settings : Settings} {world : World} {u : Unit}
    (h : ((survey settings).run world).result = .ok u) :
    (program settings).run world =
      ⟨.ok 0, ((survey settings).run world).events, ((survey settings).run world).final⟩ := by
  have whole : (survey settings >>= fun _ => pure 0).run world =
      ⟨.ok 0, ((survey settings).run world).events ++ [], ((survey settings).run world).final⟩ := by
    rw [Act.run_bind, Course.follow_of_ok h]
    rfl
  rw [program, Act.run_recover_of_ok (a := 0) (by rw [whole]), whole, List.append_nil]

/-- Behind a fault nothing comes but its report. -/
theorem program_of_error {settings : Settings} {world : World} {fault : Fault}
    (h : ((survey settings).run world).result = .error fault) :
    let survey := (survey settings).run world
    let report := (reportFault fault).run survey.final
    (program settings).run world = ⟨report.result, survey.events ++ report.events, report.final⟩ := by
  have whole : (survey settings >>= fun _ => pure 0).run world =
      ⟨.error fault, ((survey settings).run world).events, ((survey settings).run world).final⟩ := by
    rw [Act.run_bind, Course.follow_of_error h]
  have failed : ((survey settings >>= fun _ => pure 0).run world).result = .error fault := by
    rw [whole]
  rw [program, Act.run_recover_of_error failed, whole]

theorem program_run (settings : Settings) (world : World) :
    let survey := (survey settings).run world
    let course := (program settings).run world
    course.result = exitOf survey.result ∧ printedLines course.events = printedLines survey.events ∧
      external course.events = external survey.events := by
  simp only
  cases h : ((survey settings).run world).result with
  | ok u =>
      rw [program_of_ok h]
      exact ⟨rfl, rfl, rfl⟩
  | error fault =>
      rw [program_of_error h]
      by_cases pipeline : fault.isA .pipeline
      · simp only [reportFault, if_pos pipeline, exitOf]
        exact ⟨rfl, by simp; rfl, by simp; rfl⟩
      · simp only [reportFault, if_neg pipeline, exitOf]
        exact ⟨rfl, by simp, by simp⟩

def opening (settings : Settings) (link : Link) : Course Link Session :=
  (Session.attach settings.probe (some settings.target) settings.httpTimeout).run link

theorem survey_of_error {settings : Settings} {world : World} {fault : Fault}
    (h : (opening settings world.link).result = .error fault) :
    ((survey settings).run world).result = .error fault ∧
      printedLines ((survey settings).run world).events = [] ∧
      external ((survey settings).run world).events =
        external (opening settings world.link).events := by
  have lines := Session.printedLines_attach settings.probe (some settings.target)
    settings.httpTimeout world.link
  rw [opening] at h ⊢
  simp [survey, World.onLink, Course.follow, h, lines]

theorem survey_of_ok {settings : Settings} {world : World} {session : Session}
    (h : (opening settings world.link).result = .ok session) :
    let table := (surveyWith settings session).run
      ⟨world.host, (opening settings world.link).final, session⟩
    ((survey settings).run world).result = table.result ∧
      printedLines ((survey settings).run world).events = printedLines table.events ∧
      external ((survey settings).run world).events =
        external (opening settings world.link).events ++ external table.events := by
  have lines := Session.printedLines_attach settings.probe (some settings.target)
    settings.httpTimeout world.link
  rw [opening] at h ⊢
  simp [survey, World.onLink, World.withSession, Course.follow, h, lines]

/-- With a session the records of the corpus are taken behind the events of its opening. -/
theorem survey_ends {settings : Settings} {world : World} {session : Session}
    (h : (opening settings world.link).result = .ok session) :
    let opened := opening settings world.link
    let course := (survey settings).run world
    let images := Corpus.yielded world.host.files settings.corpus
    ∃ records events,
      Ends settings ⟨world.host, opened.final, session⟩ images.1 images.2 records events
        course.result ∧
      printedLines course.events = Record.heading :: records.map Record.text ∧
      external course.events = external opened.events ++ external events ++ [.closed] ∧
      .closed ∉ external events := by
  obtain ⟨result, rows, same⟩ := survey_of_ok h
  obtain ⟨records, events, ends, table, work, unclosed⟩ := surveyWith_ends settings session
    ⟨world.host, (opening settings world.link).final, session⟩
  refine ⟨records, events, ?_, rows.trans table, ?_, unclosed⟩
  · rw [result]
    exact ends
  · rw [same, work, List.append_assoc]

/-- What a run does: without settings nothing, without a session nothing but to try for one, and else
the records of the corpus are taken one after another and the session is closed. -/
theorem run_is_fold (vars : Settings.Variables) (world : World) :
    let seen := run vars world
    match Settings.read vars with
    | .error _ => seen.output = "" ∧ seen.events = [] ∧ seen.ending = .ok 1
    | .ok settings =>
        let opened := opening settings world.link
        match opened.result with
        | .error fault =>
            seen.output = "" ∧ seen.events = external opened.events ∧
              seen.ending = exitOf (.error fault)
        | .ok session =>
            let images := Corpus.yielded world.host.files settings.corpus
            ∃ records events result,
              Ends settings ⟨world.host, opened.final, session⟩ images.1 images.2 records events
                result ∧
              seen.output = linesText (Record.heading :: records.map Record.text) ∧
              seen.events = external opened.events ++ external events ++ [.closed] ∧
              .closed ∉ external opened.events ∧ .closed ∉ external events ∧
              seen.ending = exitOf result ∧
              (seen.ending = .ok 0 ↔ records.length = images.1.length ∧ images.2 = none) ∧
              (seen.ending = .ok 1 ↔
                ∃ fault, result = .error fault ∧ fault.isA .pipeline = true) := by
  cases read : Settings.read vars with
  | error fault => simp [run, read]
  | ok settings =>
      obtain ⟨ending, lines, events⟩ := program_run settings world
      cases h : (opening settings world.link).result with
      | error fault =>
          obtain ⟨result, none, same⟩ := survey_of_error h
          simp only [run, read, transcript, h]
          refine ⟨?_, events.trans same, ?_⟩
          · rw [lines, none]
            rfl
          · rw [ending, result]
      | ok session =>
          obtain ⟨records, taken, ends, rows, work, unclosed⟩ := survey_ends h
          simp only [run, read, transcript, h]
          refine ⟨records, taken, _, ends, ?_, ?_, ?_, unclosed, ending, ?_, ?_⟩
          · rw [lines, rows]
          · exact events.trans work
          · exact not_closed_of_isWork (Session.attach_isWork h)
          · rw [ending, exitOf_eq_zero, ends.ok_iff]
          · rw [ending, exitOf_eq_one]

end Console

end TickBound
