import TickBound.Proofs.Lending
import TickBound.Proofs.SurveyFold

/-!
# A table is a survey asked to its end

A survey hands out its records one at a time, and a table prints them in one go. Asked until it has
nothing more, a survey gives the very records that the table prints, with the same events before each of
them, and comes to the same end on the same bench. From then on it has nothing, whatever else is done.
-/

namespace TickBound

/-- What a survey gives when it is asked to its end. -/
structure Yield where
  /-- The records, each with what happened until it was there. -/
  rows : List (Record × List Event) := []
  /-- What happened behind the last record. -/
  last : List Event := []
  ending : Except Fault Unit

namespace Yield

def behind (record : Record) (events : List Event) (yield : Yield) : Yield :=
  { yield with rows := (record, events) :: yield.rows }

/-- All events, with every record printed as soon as it is there. -/
def printed (yield : Yield) : List Event :=
  yield.rows.flatMap (fun row => row.2 ++ [.printed row.1.text]) ++ yield.last

/-- What comes of each time that the survey is asked. -/
def answers (yield : Yield) : List (Except Fault Finding × List Event) :=
  yield.rows.map (fun row => (.ok (.text row.1.text), row.2)) ++
    [(yield.ending.map fun _ => .nothing, yield.last)]

theorem printed_behind (record : Record) (events : List Event) (yield : Yield) :
    (yield.behind record events).printed = events ++ .printed record.text :: yield.printed := by
  simp [printed, behind]

end Yield

/-! ## Asking a survey -/

namespace Survey

variable {settings : Settings} {survey other : Survey} {bench : Bench} {yield : Yield}

/-- Asked again and again, the survey gives the yield and ends on the bench. -/
inductive Yields (settings : Settings) : Survey → Yield → Bench → Prop
  | exhausted {survey : Survey} {bench : Bench}
      (none : (next settings).run survey = ⟨.ok none, [], ⟨bench, .ended⟩⟩) :
      Yields settings survey { ending := .ok () } bench
  | failed {survey : Survey} {bench : Bench} {fault : Fault} {events : List Event}
      (stop : (next settings).run survey = ⟨.error fault, events, ⟨bench, .ended⟩⟩) :
      Yields settings survey { last := events, ending := .error fault } bench
  | record {survey behind : Survey} {bench : Bench} {record : Record} {events : List Event}
      {yield : Yield} (some : (next settings).run survey = ⟨.ok (some record), events, behind⟩)
      (rest : Yields settings behind yield bench) :
      Yields settings survey (yield.behind record events) bench

theorem Yields.of_next (h : Yields settings other yield bench)
    (same : (next settings).run survey = (next settings).run other) :
    Yields settings survey yield bench := by
  cases h with
  | exhausted none => exact .exhausted (same.trans none)
  | failed stop => exact .failed (same.trans stop)
  | record some rest => exact .record (same.trans some) rest

/-! ## The next record -/

variable {directory : String} {entry : FileTree.Entry} {more found : List FileTree.Entry}

theorem next_of_ended (settings : Settings) (bench : Bench) :
    (next settings).run ⟨bench, .ended⟩ = ⟨.ok none, [], ⟨bench, .ended⟩⟩ := rfl

theorem next_of_listing (settings : Settings) (bench : Bench) (directory : String)
    (found : List FileTree.Entry) :
    (next settings).run ⟨bench, .listing directory found⟩ =
      (nextAmong settings directory found).run ⟨bench, .ended⟩ := by
  simp [next, moveTo]

theorem next_of_unreadable {fault : Fault}
    (h : Corpus.entries bench.host.files directory = .error fault) :
    (next settings).run ⟨bench, .fresh directory⟩ = ⟨.error fault, [], ⟨bench, .ended⟩⟩ := by
  simp [next, moveTo, h]

theorem next_of_readable (h : Corpus.entries bench.host.files directory = .ok found) :
    (next settings).run ⟨bench, .fresh directory⟩ =
      (next settings).run ⟨bench, .listing directory found⟩ := by
  simp [next, moveTo, h]

theorem next_of_nil (settings : Settings) (bench : Bench) (directory : String) :
    (next settings).run ⟨bench, .listing directory []⟩ = ⟨.ok none, [], ⟨bench, .ended⟩⟩ := by
  rw [next_of_listing]
  simp [nextAmong, Corpus.nextImage]

theorem next_of_stop {fault : Fault}
    (h : Corpus.isImage bench.host.files directory entry = .error fault) :
    (next settings).run ⟨bench, .listing directory (entry :: more)⟩ =
      ⟨.error fault, [], ⟨bench, .ended⟩⟩ := by
  rw [next_of_listing]
  simp [nextAmong, Corpus.nextImage, h, bind, Except.bind]

theorem next_of_other (h : Corpus.isImage bench.host.files directory entry = .ok false) :
    (next settings).run ⟨bench, .listing directory (entry :: more)⟩ =
      (next settings).run ⟨bench, .listing directory more⟩ := by
  rw [next_of_listing, next_of_listing]
  simp [nextAmong, Corpus.nextImage, h, bind, Except.bind]

theorem next_of_measured {record : Record} {events : List Event} {behind : Bench}
    (h : Corpus.isImage bench.host.files directory entry = .ok true)
    (taken : (Bench.record settings (Path.normal (Path.entry directory entry.name))).run bench =
      ⟨.ok record, events, behind⟩) :
    (next settings).run ⟨bench, .listing directory (entry :: more)⟩ =
      ⟨.ok (some record), events, ⟨behind, .listing directory more⟩⟩ := by
  rw [next_of_listing]
  simp [nextAmong, Corpus.nextImage, h, bind, Except.bind, onBench, moveTo, taken]

theorem next_of_unmeasured {fault : Fault} {events : List Event} {behind : Bench}
    (h : Corpus.isImage bench.host.files directory entry = .ok true)
    (taken : (Bench.record settings (Path.normal (Path.entry directory entry.name))).run bench =
      ⟨.error fault, events, behind⟩) :
    (next settings).run ⟨bench, .listing directory (entry :: more)⟩ =
      ⟨.error fault, events, ⟨behind, .ended⟩⟩ := by
  rw [next_of_listing]
  simp [nextAmong, Corpus.nextImage, h, bind, Except.bind, onBench, taken]

end Survey

/-! ## Printing what a survey gives -/

namespace Bench

open Survey (Yields)

/-- Printing the rows of the images among the entries is asking a survey that has come to them. -/
theorem printAmong_yields (settings : Settings) (directory : String) (found : List FileTree.Entry)
    (bench : Bench) :
    ∃ yield final, Yields settings ⟨bench, .listing directory found⟩ yield final ∧
      (printAmong settings directory found).run bench = ⟨yield.ending, yield.printed, final⟩ := by
  induction found generalizing bench with
  | nil => exact ⟨_, bench, .exhausted (Survey.next_of_nil settings bench directory), rfl⟩
  | cons entry more ih =>
      cases h : Corpus.isImage bench.host.files directory entry with
      | error fault => exact ⟨_, bench, .failed (Survey.next_of_stop h), printAmong_of_error h⟩
      | ok image =>
          cases image with
          | false =>
              obtain ⟨yield, final, yields, printed⟩ := ih bench
              refine ⟨yield, final, yields.of_next (Survey.next_of_other h), ?_⟩
              rw [printAmong_of_other h, printed]
          | true =>
              rw [printAmong_of_image h]
              cases taken :
                  (record settings (Path.normal (Path.entry directory entry.name))).run bench with
              | mk result events behind =>
                  cases result with
                  | error fault =>
                      exact ⟨_, behind, .failed (Survey.next_of_unmeasured h taken), rfl⟩
                  | ok record =>
                      obtain ⟨yield, final, yields, printed⟩ := ih behind
                      refine ⟨_, final, .record (Survey.next_of_measured h taken) yields, ?_⟩
                      rw [Course.follow_ok, printed, Yield.printed_behind]
                      rfl

/-- Printing a table is asking a fresh survey to its end, behind the heading. -/
theorem printTable_yields (settings : Settings) (directory : String) (bench : Bench) :
    ∃ yield final, Yields settings ⟨bench, .fresh directory⟩ yield final ∧
      (printTable settings directory).run bench =
        ⟨yield.ending, .printed Record.heading :: yield.printed, final⟩ := by
  cases h : Corpus.entries bench.host.files directory with
  | error fault =>
      refine ⟨_, bench, .failed (Survey.next_of_unreadable h), ?_⟩
      simp [printTable, h, Yield.printed]
  | ok found =>
      obtain ⟨yield, final, yields, printed⟩ := printAmong_yields settings directory found bench
      refine ⟨yield, final, yields.of_next (Survey.next_of_readable h), ?_⟩
      simp [printTable, h, printed]

end Bench

/-- Nothing that a survey does while it is asked prints a line. -/
theorem Survey.isWork_next (settings : Settings) :
    (next settings).Respects (fun _ => ()) fun _ event => event.IsWork := by
  apply next_has (Act.Respects.rules _ _)
  · intro path
    apply ((Bench.keepsFrame_record settings path).forget fun _ _ => id).within
    · exact fun _ _ _ => rfl
    · exact fun _ _ => id
  · exact fun _ => .change fun _ => rfl

theorem Survey.Yields.isWork {settings : Settings} {survey : Survey} {yield : Yield} {bench : Bench}
    (h : Yields settings survey yield bench) :
    (∀ row ∈ yield.rows, ∀ event ∈ row.2, event.IsWork) ∧ ∀ event ∈ yield.last, event.IsWork := by
  induction h with
  | exhausted => simp
  | @failed survey _ _ _ stop => 
      have work := (isWork_next settings survey).2
      rw [stop] at work
      exact ⟨by simp, work⟩
  | @record survey _ _ _ _ _ some _ ih =>
      have work := (isWork_next settings survey).2
      rw [some] at work
      refine ⟨?_, ih.2⟩
      intro row mem
      rcases List.mem_cons.mp mem with rfl | mem
      · exact work
      · exact ih.1 row mem

/-- The printed lines are the texts of the records. -/
theorem Yield.printedLines_printed {yield : Yield}
    (rows : ∀ row ∈ yield.rows, ∀ event ∈ row.2, event.IsWork)
    (last : ∀ event ∈ yield.last, event.IsWork) :
    Console.printedLines yield.printed = yield.rows.map (·.1.text) := by
  obtain ⟨taken, events, ending⟩ := yield
  induction taken with
  | nil => exact Console.printedLines_of_isWork last
  | cons row more ih =>
      have first := Console.printedLines_of_isWork (rows row (by simp))
      have others := ih fun row mem => rows row (List.mem_cons_of_mem _ mem)
      show Console.printedLines ((Yield.behind row.1 row.2 ⟨more, events, ending⟩).printed) = _
      rw [printed_behind, Console.printedLines_append, first, List.nil_append, List.map_cons,
        ← others last]
      rfl

/-! ## Surveys at the desk -/

namespace Desk

variable {settings : Settings} {desk : Desk} {i : Nat}

theorem bench_putBench (inside : i < desk.sessions.length) (bench : Bench) :
    (desk.putBench i bench).bench i = bench := by
  simp [Desk.bench, putBench, session, inside]

def surveying (desk : Desk) (i : Nat) (survey : Survey) : Desk :=
  { desk.putBench i survey.bench with survey := some (i, survey.progress) }

theorem surveying_fresh (desk : Desk) (directory : String) :
    { desk with survey := some (desk.current, .fresh directory) } =
      desk.surveying desk.current ⟨desk.bench desk.current, .fresh directory⟩ := by
  rw [surveying, putBench_bench]

theorem surveying_surveying (desk : Desk) (i : Nat) (first second : Survey) :
    (desk.surveying i first).surveying i second = desk.surveying i second := by
  simp [surveying, putBench]

theorem bench_surveying (inside : i < desk.sessions.length) (survey : Survey) :
    (desk.surveying i survey).bench i = survey.bench :=
  bench_putBench inside survey.bench

/-- Asking for the next record is asking the survey, on the bench of its session. -/
theorem nextRecord_of_survey (settings : Settings) {progress : Progress}
    (h : desk.survey = some (i, progress)) :
    let course := (Survey.next settings).run ⟨desk.bench i, progress⟩
    (nextRecord settings).run desk =
      ⟨course.result, course.events, desk.surveying i course.final⟩ := by
  rw [nextRecord, Act.run_bind, Act.run_reads, Course.follow_ok, h]
  rfl

theorem nextRecord_surveying (inside : i < desk.sessions.length) (survey : Survey) :
    let course := (Survey.next settings).run survey
    (nextRecord settings).run (desk.surveying i survey) =
      ⟨course.result, course.events, desk.surveying i course.final⟩ := by
  have asked := nextRecord_of_survey settings
    (show (desk.surveying i survey).survey = some (i, survey.progress) from rfl)
  simpa only [bench_surveying inside, surveying_surveying] using asked

def told : Option Record → Finding
  | some record => .text record.text
  | none => .nothing

theorem take_nextRecord (settings : Settings) (inside : i < desk.sessions.length) (survey : Survey) :
    let course := (Survey.next settings).run survey
    (Step.nextRecord.take settings).run (desk.surveying i survey) =
      ⟨course.result.map told, course.events, desk.surveying i course.final⟩ := by
  simp only [Step.take, Act.run_bind, nextRecord_surveying inside]
  cases (Survey.next settings).run survey with
  | mk result events final =>
      cases result with
      | error fault => rfl
      | ok row => cases row <;> simp [told, Except.map]

/-- Taking the step as often as there are records, and once more, gives the yield. -/
theorem takeAll_of_yields {survey : Survey} {yield : Yield} {bench : Bench}
    (inside : i < desk.sessions.length) (h : Survey.Yields settings survey yield bench) :
    let steps := List.replicate (yield.rows.length + 1) Step.nextRecord
    takeAll settings steps (desk.surveying i survey) = yield.answers ∧
      (desk.surveying i survey).after settings steps = desk.surveying i ⟨bench, .ended⟩ := by
  induction h with
  | exhausted none =>
      have taken := take_nextRecord settings inside
      simp [takeAll, after, taken, none, Yield.answers, Except.map, told]
  | failed stop =>
      have taken := take_nextRecord settings inside
      simp [takeAll, after, taken, stop, Yield.answers, Except.map]
  | @record survey behind bench record events yield some rest ih =>
      have taken := take_nextRecord settings inside survey
      rw [some] at taken
      obtain ⟨answers, reached⟩ := ih
      show takeAll settings (.nextRecord :: List.replicate (yield.rows.length + 1) .nextRecord) _ = _ ∧
        after settings (.nextRecord :: List.replicate (yield.rows.length + 1) .nextRecord) _ = _
      rw [takeAll, after, taken, answers, reached]
      exact ⟨rfl, rfl⟩

/-! ## Behind the end -/

def KeepsSurvey {α : Type} (act : Act Desk α) : Prop :=
  act.Respects Desk.survey fun _ _ => True

variable {α : Type}

theorem keepsSurvey_within {σ : Type} {part : Desk → σ} {replace : Desk → σ → Desk} (act : Act σ α)
    (h : ∀ desk s, (replace desk s).survey = desk.survey) : KeepsSurvey (act.within part replace) :=
  fun desk => ⟨h desk _, fun _ _ => trivial⟩

theorem keepsSurvey_onBench (i : Nat) (act : Act Bench α) : KeepsSurvey (onBench i act) :=
  keepsSurvey_within act fun _ _ => rfl

theorem keepsSurvey_onCurrent (act : Act Bench α) : KeepsSurvey (onCurrent act) :=
  .bind (.reads _) fun i => keepsSurvey_onBench i act

theorem keepsSurvey_onHost (act : Act Host α) : KeepsSurvey (onHost act) :=
  keepsSurvey_within act fun _ _ => rfl

/-- Whatever is done on a bench, the survey stays where it is. -/
theorem keepsSurvey_rules (settings : Settings) :
    Rules settings (fun _ _ => True) fun _ act => KeepsSurvey act where
  bench := ⟨fun _ => trivial, fun _ _ => trivial⟩
  desk := Act.Respects.rules _ _
  onBench i _ := keepsSurvey_onBench i _
  onHost := keepsSurvey_onHost
  closed := .emit fun _ => trivial
  hosts _ := trivial
  carried _ := trivial
  connected := trivial
  measured := trivial
  emitted _ := trivial

theorem keepsSurvey_giveBack (handle : Handle) : KeepsSurvey (giveBack handle) :=
  .ite (.bind (keepsSurvey_onBench _ _) fun _ => .change fun _ => rfl) (.pure _)

theorem keepsSurvey_borrow (index : Int) (name : String) : KeepsSurvey (borrow index name) := by
  apply (keepsSurvey_onCurrent _).bind
  intro _
  apply Act.Respects.bind (.reads _)
  intro older
  cases older with
  | none => exact .change fun _ => rfl
  | some handle => exact (keepsSurvey_giveBack handle).bind fun _ => .change fun _ => rfl

theorem keepsSurvey_attach (target : String) (expected : Option String) (timeout : Float) :
    KeepsSurvey (attach target expected timeout) := by
  have opened : KeepsSurvey ((Session.attach target expected timeout).within Desk.link
      fun desk link => { desk with link }) := keepsSurvey_within _ fun _ _ => rfl
  exact opened.bind fun _ => .bind (.change fun _ => rfl) fun _ => .pure _

end Desk

namespace Step

open Desk

def MovesSurvey : Step → Prop
  | beginSurvey _ => True
  | nextRecord => True
  | _ => False

theorem take_keepsSurvey (settings : Settings) {step : Step} (still : ¬ step.MovesSurvey) :
    KeepsSurvey (step.take settings) := by
  have rules := keepsSurvey_rules settings
  apply rules.take step
  · exact fun _ _ _ _ => keepsSurvey_attach _ _ _
  · exact fun _ _ _ => keepsSurvey_borrow _ _
  · exact fun name _ _ => (rules.handle name).bind fun handle => keepsSurvey_giveBack handle
  · rintro _ rfl
    exact absurd trivial still
  · rintro rfl
    exact absurd trivial still

end Step

namespace Desk

variable {settings : Settings} {desk : Desk} {i : Nat}

theorem take_nextRecord_of_ended (settings : Settings) (h : desk.survey = some (i, .ended)) :
    (Step.nextRecord.take settings).run desk = ⟨.ok .nothing, [], desk⟩ := by
  have same : desk.surveying i ⟨desk.bench i, .ended⟩ = desk := by
    rw [surveying, putBench_bench, ← h]
  have asked := nextRecord_of_survey settings h
  simp only [Survey.next_of_ended, same] at asked
  rw [Step.take, Act.run_bind, asked]
  rfl

theorem survey_after_ended (settings : Settings) {steps : List Step}
    (none : ∀ step ∈ steps, ∀ directory, step ≠ .beginSurvey directory)
    (h : desk.survey = some (i, .ended)) : (desk.after settings steps).survey = some (i, .ended) := by
  induction steps generalizing desk with
  | nil => exact h
  | cons step more ih =>
      apply ih fun step mem => none step (List.mem_cons_of_mem _ mem)
      by_cases still : step.MovesSurvey
      · cases step with
        | nextRecord =>
            rw [take_nextRecord_of_ended settings h]
            exact h
        | beginSurvey directory => exact absurd rfl (none _ (by simp) directory)
        | _ => exact absurd still id
      · exact (Step.take_keepsSurvey settings still desk).1.trans h

/-! ## The table and the survey -/

/-- From the desk, a table of the directory and a survey of it that is asked to its end come to the same;
`stopped` is the desk behind the survey. -/
structure Tallies (settings : Settings) (directory : String) (desk : Desk) (yield : Yield)
    (stopped : Desk) : Prop where
  /-- The survey begins with nothing and gives the yield. -/
  asked :
    let steps := .beginSurvey directory :: List.replicate (yield.rows.length + 1) .nextRecord
    takeAll settings steps desk = (.ok .nothing, []) :: yield.answers ∧
      desk.after settings steps = stopped
  /-- The table has the same events with the rows between them, the same end, and leaves the same. -/
  printed : ((Step.printTable directory).take settings).run desk =
    ⟨yield.ending.map fun _ => .nothing, .printed Record.heading :: yield.printed,
      { stopped with survey := desk.survey }⟩
  lines : Console.printedLines (.printed Record.heading :: yield.printed) =
    Record.heading :: yield.rows.map (·.1.text)
  /-- Until another survey is begun, asking gives nothing more and changes nothing. -/
  spent : ∀ steps, (∀ step ∈ steps, ∀ other, step ≠ .beginSurvey other) →
    let later := stopped.after settings steps
    (Step.nextRecord.take settings).run later = ⟨.ok .nothing, [], later⟩

theorem table_is_survey (settings : Settings) (directory : String) {desk : Desk}
    (inside : desk.current < desk.sessions.length) :
    ∃ yield stopped, Tallies settings directory desk yield stopped := by
  obtain ⟨yield, final, yields, printed⟩ :=
    Bench.printTable_yields settings directory (desk.bench desk.current)
  obtain ⟨answers, reached⟩ := takeAll_of_yields inside yields
  have begun : ((Step.beginSurvey directory).take settings).run desk =
      ⟨.ok .nothing, [], desk.surveying desk.current ⟨desk.bench desk.current, .fresh directory⟩⟩ := by
    rw [← surveying_fresh]
    rfl
  refine ⟨yield, desk.surveying desk.current ⟨final, .ended⟩, ?_, ?_, ?_, ?_⟩
  · intro steps
    rw [takeAll, after, begun, answers, reached]
    exact ⟨rfl, rfl⟩
  · have table : (onCurrent (Bench.printTable settings directory)).run desk =
        ⟨yield.ending, .printed Record.heading :: yield.printed, desk.putBench desk.current final⟩ := by
      rw [onCurrent, Act.run_bind, Act.run_reads, Course.follow_ok, onBench, Act.run_within, printed]
      rfl
    show (onCurrent (Bench.printTable settings directory) >>= fun _ => pure Finding.nothing).run desk = _
    rw [Step.run_found, table]
    rfl
  · have texts := Yield.printedLines_printed yields.isWork.1 yields.isWork.2
    rw [← texts]
    rfl
  · intro steps none
    exact take_nextRecord_of_ended settings (survey_after_ended settings none rfl)

def looping : Desk :=
  fresh
    { outcomes := [.ended 0 "10000334 T measure\n" ""], missingTools := []
      files := { nodes := [(["c", "sub"], .directory), (["c", "a.elf"], .file Image.magic),
        (["c", "b"], .link "b")] } }
    { answers := [] } "http://192.168.4.1/api" 5

theorem table_is_survey_looping :
    looping.current < looping.sessions.length ∧
      ∃ yield stopped, Tallies { probe := "192.168.4.1" } "c" looping yield stopped :=
  ⟨by decide, table_is_survey { probe := "192.168.4.1" } "c" (by decide)⟩

end Desk

end TickBound
