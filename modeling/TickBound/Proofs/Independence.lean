import TickBound.Proofs.Counts
import TickBound.Proofs.LendingFrame
import TickBound.Proofs.Measurement
import TickBound.Proofs.Opening
import TickBound.Proofs.Outcomes

/-!
# Independence of the two numbers

A record is put together from a check, the cycles that are counted and the bound that is found, and each
of them has its own share of the host's outcomes. The engine is started when the cycles have been counted,
and what comes of it cannot change them any more. The target, in turn, has no part in the bound.
-/

namespace TickBound

theorem Host.run_events {arguments : List String} (given : arguments ≠ []) (input : Option String)
    (limit : Option Float) (host : Host) :
    ((run arguments input limit).run host).events =
      [.ran arguments input limit (host.outcomes.headD .notFound)] := by
  obtain ⟨program, more, rfl⟩ := List.exists_cons_of_ne_nil given
  rw [run, Act.run_bind, run_start rfl, Course.follow_ok]
  cases host.outcomes.headD .notFound with
  | ended code output errors => rfl
  | notFound | denied | timedOut => rfl

namespace Engine

/-- What an exploration does before the engine is started: it finds out how to start it. -/
def command (settings : Settings) (path entry : String) : Act Host (List String) := do
  let address ← entryAddress path entry
  .note .debug .engine s!"Exploring {path} from {entry} at 0x{Number.hexPadded 8 address}"
  .ofExcept ((settings.exploreArguments path entry).mapError fun fault => .outside (.template fault))

def answer (options : EngineOptions) (path : String) (finished : Finished) : Act Host (List Nat) :=
  if finished.code ≠ 0 then
    .fail (.engine (.failed path finished.code (Text.trimmed finished.errors)))
  else do
    let bounds ← .ofExcept ((Bounds.parse finished.output).mapError .engine)
    if options.showPathResults.isTruthy then noteBounds 0 bounds
    pure bounds

def conclude (options : EngineOptions) (path : String) (finished : Finished) : Act Host Nat := do
  let bounds ← answer options path finished
  .ofExcept ((Bounds.worst bounds).mapError .engine)

/-- The start of the engine divides an exploration. -/
theorem bound_eq_command (settings : Settings) (options : EngineOptions) (path entry : String) :
    bound settings options path entry =
      command settings path entry >>= fun arguments =>
        (Host.run arguments (some options.text) none).mapFault engineCause >>= conclude options path := by
  rw [bound, explore, command]
  simp only [bind_assoc]
  rfl

theorem takes_command (settings : Settings) (path entry : String) :
    Host.Takes 1 (command settings path entry) :=
  (takes_entryAddress path entry).bind (n := 0) fun _ =>
    (Act.Takes.note _ _ _).bind (n := 0) fun _ => .ofExcept _

theorem arguments_of_command {settings : Settings} {path entry : String} {host : Host}
    {arguments : List String} (h : ((command settings path entry).run host).result = .ok arguments) :
    settings.exploreArguments path entry = .ok arguments := by
  rw [command, Act.bind_result_ok] at h
  obtain ⟨address, -, h⟩ := h
  rw [Act.bind_result_ok] at h
  obtain ⟨_, -, h⟩ := h
  rw [Act.run_ofExcept] at h
  cases known : settings.exploreArguments path entry with
  | error fault =>
      rw [known] at h
      cases h
  | ok own =>
      rw [known] at h
      cases h
      rfl

end Engine

namespace Bench

variable {settings : Settings} {path : String} {bench bench' : Bench}

/-! ## The parts of a record -/

def report (path : String) (measured : Int) (bound : Nat) : Act Bench Record := do
  let record : Record := ⟨Path.name path, measured, bound⟩
  if !Number.fitsDecimal measured then .fail (.outside .decimalTooLong)
  .note .info .survey
    s!"{record.name}: hw {Number.decimal record.measured} symex {Number.decimal record.bound}"
  pure record

theorem report_result_ok {measured : Int} {bound : Nat} {kept : Record} :
    ((report path measured bound).run bench).result = .ok kept ↔
      Number.fitsDecimal measured = true ∧ kept = ⟨Path.name path, measured, bound⟩ := by
  rw [report]
  cases fits : Number.fitsDecimal measured with
  | false =>
      refine ⟨fun failed => ?_, fun both => ?_⟩
      · cases failed
      · cases both.1
  | true =>
      refine ⟨fun kept => ?_, fun both => ?_⟩
      · cases kept
        exact ⟨rfl, rfl⟩
      · rw [both.2]
        rfl

theorem record_eq_report (settings : Settings) (path : String) :
    record settings path =
      onHost (preflight settings path) >>= fun _ => measureImage settings path >>= fun measured =>
        onHost (Engine.bound settings {} path settings.entrySymbol) >>= report path measured := by
  unfold record report
  rfl

/-- The check, the measurement and the exploration each have the outcomes behind those of the ones
before, whatever else has come of these. -/
theorem record_result_ok {kept : Record} :
    ((record settings path).run bench).result = .ok kept ↔
      ((preflight settings path).run bench.host).result = .ok () ∧
      ∃ measured bound,
        ((measureImage settings path).run
          ⟨bench.host.skip settings.checkRuns, bench.connection⟩).result = .ok measured ∧
        ((Engine.bound settings {} path settings.entrySymbol).run
          (bench.host.skip (settings.checkRuns + 1))).result = .ok bound ∧
        Number.fitsDecimal measured = true ∧ kept = ⟨Path.name path, measured, bound⟩ := by
  have checks : ((preflight settings path).run bench.host).result = .ok () →
      ((onHost (preflight settings path)).run bench).final =
        ⟨bench.host.skip settings.checkRuns, bench.connection⟩ := fun checked =>
    congrArg (Bench.mk · bench.connection)
      ((takes_preflight settings path).final bench.host () checked)
  have measures : ∀ measured, ((measureImage settings path).run
        ⟨bench.host.skip settings.checkRuns, bench.connection⟩).result = .ok measured →
      ((measureImage settings path).run
        ⟨bench.host.skip settings.checkRuns, bench.connection⟩).final.host =
          bench.host.skip (settings.checkRuns + 1) := fun measured counted =>
    ((takes_measureImage settings path).final _ measured counted).trans (Host.skip_skip _ _ _)
  rw [record_eq_report, Act.bind_result_ok]
  constructor
  · rintro ⟨⟨⟩, checked, h⟩
    rw [checks checked, Act.bind_result_ok] at h
    obtain ⟨measured, counted, h⟩ := h
    rw [Act.bind_result_ok] at h
    obtain ⟨bound, explored, h⟩ := h
    rw [onHost, Act.run_within, measures measured counted] at explored
    exact ⟨checked, measured, bound, counted, explored, report_result_ok.mp h⟩
  · rintro ⟨checked, measured, bound, counted, explored, reported⟩
    refine ⟨(), checked, ?_⟩
    rw [checks checked, Act.bind_result_ok]
    refine ⟨measured, counted, ?_⟩
    rw [Act.bind_result_ok]
    refine ⟨bound, ?_, report_result_ok.mpr reported⟩
    rw [onHost, Act.run_within, measures measured counted]
    exact explored

theorem measured_eq_of_sameFor (same : bench.connection = bench'.connection)
    (hosts : bench.host.SameFor (settings.checkRuns + 1) bench'.host) {kept kept' : Record}
    (ok : ((record settings path).run bench).result = .ok kept)
    (ok' : ((record settings path).run bench').result = .ok kept') : kept.measured = kept'.measured := by
  obtain ⟨-, measured, bound, counted, -, -, rfl⟩ := record_result_ok.mp ok
  obtain ⟨-, measured', bound', counted', -, -, rfl⟩ := record_result_ok.mp ok'
  have results := ((takes_measureImage settings path).same
    ⟨bench.host.skip settings.checkRuns, bench.connection⟩
    ⟨bench'.host.skip settings.checkRuns, bench'.connection⟩ same hosts.skip).1
  rw [counted, counted'] at results
  exact Except.ok.inj results

theorem bound_eq_of_host (hosts : bench.host = bench'.host) {kept kept' : Record}
    (ok : ((record settings path).run bench).result = .ok kept)
    (ok' : ((record settings path).run bench').result = .ok kept') : kept.bound = kept'.bound := by
  obtain ⟨-, measured, bound, -, explored, -, rfl⟩ := record_result_ok.mp ok
  obtain ⟨-, measured', bound', -, explored', -, rfl⟩ := record_result_ok.mp ok'
  rw [← hosts, explored] at explored'
  exact congrArg Nat.cast (Except.ok.inj explored')

/-! ## Up to the engine -/

/-- A measurement up to the start of the engine, with the cycles and the engine's command line. -/
def approach (settings : Settings) (path : String) : Act Bench (Int × List String) := do
  onHost (preflight settings path)
  let measured ← measureImage settings path
  let arguments ← onHost (Engine.command settings path settings.entrySymbol)
  pure (measured, arguments)

/-- A measurement from the start of the engine on. -/
def finish (path : String) (measured : Int) (arguments : List String) : Act Bench Record := do
  let finished ←
    onHost ((Host.run arguments (some ({} : EngineOptions).text) none).mapFault Engine.engineCause)
  let bound ← onHost (Engine.conclude {} path finished)
  report path measured bound

theorem record_eq_approach (settings : Settings) (path : String) :
    record settings path =
      approach settings path >>= fun reached => finish path reached.1 reached.2 := by
  rw [record_eq_report, approach]
  simp only [finish, Engine.bound_eq_command, onHost_bind, bind_assoc, pure_bind]

theorem takes_approach (settings : Settings) (path : String) :
    Takes (settings.checkRuns + 2) (approach settings path) :=
  (takes_onHost (takes_preflight settings path)).bind (n := 2) fun _ =>
    (takes_measureImage settings path).bind (n := 1) fun _ =>
      (takes_onHost (Engine.takes_command settings path _)).bind (n := 0) fun _ => .pure _

section

variable {measured : Int} {arguments : List String}

theorem arguments_of_approach
    (reached : ((approach settings path).run bench).result = .ok (measured, arguments)) :
    settings.exploreArguments path settings.entrySymbol = .ok arguments := by
  rw [approach, Act.bind_result_ok] at reached
  obtain ⟨_, -, reached⟩ := reached
  rw [Act.bind_result_ok] at reached
  obtain ⟨own, -, reached⟩ := reached
  rw [Act.bind_result_ok] at reached
  obtain ⟨found, command, reached⟩ := reached
  rw [onHost, Act.run_within] at command
  cases reached
  exact Engine.arguments_of_command command

theorem headD_of_approach
    (reached : ((approach settings path).run bench).result = .ok (measured, arguments)) :
    ((approach settings path).run bench).final.host.outcomes.headD .notFound =
      bench.host.outcomes.getD (settings.checkRuns + 2) .notFound := by
  have behind := (takes_approach settings path).final bench _ reached
  rw [behind, Host.skip, List.headD_eq_head?_getD, List.head?_drop, List.getD_eq_getElem?_getD]

/-- The engine comes first, unless there is nothing to start. -/
theorem finish_events (given : arguments ≠ []) (path : String) (measured : Int) (bench : Bench) :
    ∃ more, ((finish path measured arguments).run bench).events =
      .ran arguments (some ({} : EngineOptions).text) none (bench.host.outcomes.headD .notFound) :: more := by
  rw [finish, Act.run_bind]
  obtain ⟨more, events⟩ := Course.follow_events _ _
  refine ⟨more, events.trans ?_⟩
  rw [onHost, Act.run_within, Act.run_mapFault, Host.run_events given]
  rfl

theorem finish_nil (path : String) (measured : Int) (bench : Bench) :
    ((finish path measured []).run bench).events = [] := by
  have refused : (onHost ((Host.run [] (some ({} : EngineOptions).text) none).mapFault
      Engine.engineCause)).run bench = ⟨.error (.outside .emptyCommand), [], bench⟩ := rfl
  rw [finish, Act.run_bind, refused, Course.follow_error]

end

/-- Between benches that agree on all outcomes before that of the engine, what comes of the engine is the
first that can make a difference. -/
theorem events_part_at_engine (same : bench.connection = bench'.connection)
    (hosts : bench.host.SameFor (settings.checkRuns + 2) bench'.host) :
    ((record settings path).run bench).events = ((record settings path).run bench').events ∨
      ∃ ahead arguments more more',
        settings.exploreArguments path settings.entrySymbol = .ok arguments ∧
        ((record settings path).run bench).events =
          ahead ++ .ran arguments (some ({} : EngineOptions).text) none
            (bench.host.outcomes.getD (settings.checkRuns + 2) .notFound) :: more ∧
        ((record settings path).run bench').events =
          ahead ++ .ran arguments (some ({} : EngineOptions).text) none
            (bench'.host.outcomes.getD (settings.checkRuns + 2) .notFound) :: more' := by
  obtain ⟨results, events, -⟩ := (takes_approach settings path).same bench bench' same hosts
  rw [record_eq_approach]
  cases reached : ((approach settings path).run bench).result with
  | error fault =>
      rw [Act.run_bind_of_error reached, Act.run_bind_of_error (results ▸ reached)]
      exact .inl events
  | ok both =>
      obtain ⟨measured, arguments⟩ := both
      have reached' : ((approach settings path).run bench').result = .ok (measured, arguments) :=
        results ▸ reached
      rw [Act.run_bind_of_ok reached, Act.run_bind_of_ok reached', ← events]
      by_cases given : arguments = []
      · subst given
        rw [finish_nil, finish_nil]
        exact .inl rfl
      · have known := arguments_of_approach reached
        obtain ⟨more, started⟩ :=
          finish_events given path measured ((approach settings path).run bench).final
        obtain ⟨more', started'⟩ :=
          finish_events given path measured ((approach settings path).run bench').final
        rw [started, started', headD_of_approach reached, headD_of_approach reached']
        exact .inr ⟨_, arguments, more, more', known, rfl, rfl⟩

/-- The two numbers of an image have no part in each other. What comes of the engine, and of programs
behind it, is seen only from its start on and never in the cycles; what comes over the connection, and
when, is never seen in the bound. -/
theorem numbers_independent (settings : Settings) (path : String) (bench bench' : Bench) :
    let course := (record settings path).run bench
    let course' := (record settings path).run bench'
    let engineRun := settings.checkRuns + 2
    (bench.connection = bench'.connection → bench.host.SameFor engineRun bench'.host →
      (course.events = course'.events ∨
        ∃ ahead arguments more more',
          settings.exploreArguments path settings.entrySymbol = .ok arguments ∧
          course.events = ahead ++ .ran arguments (some ({} : EngineOptions).text) none
            (bench.host.outcomes.getD engineRun .notFound) :: more ∧
          course'.events = ahead ++ .ran arguments (some ({} : EngineOptions).text) none
            (bench'.host.outcomes.getD engineRun .notFound) :: more') ∧
      ∀ kept kept', course.result = .ok kept → course'.result = .ok kept' →
        kept.measured = kept'.measured) ∧
    (bench.host = bench'.host →
      ∀ kept kept', course.result = .ok kept → course'.result = .ok kept' →
        kept.bound = kept'.bound) := by
  refine ⟨fun same hosts => ⟨events_part_at_engine same hosts, fun kept kept' ok ok' => ?_⟩,
    fun hosts kept kept' ok ok' => bound_eq_of_host hosts ok ok'⟩
  exact measured_eq_of_sameFor same (hosts.mono (Nat.le_succ _)) ok ok'

/-! ## A bench on which a measurement succeeds -/

section Serving

open Sample (promptly ready lowered)

theorem measureOn_of_free {c : Connection} {n : Int} (free : (0 : Int) ∉ c.session.borrowed)
    (measured : ((Sample.measure {} settings.haltTimeout settings.calibrationOffset).run
      ⟨c.link, { c.session with borrowed := 0 :: c.session.borrowed }⟩).result = .ok n) :
    ((measureOn settings {}).run c).result = .ok n := by
  rw [measureOn, Session.borrowing, Act.run_bind, Session.borrow_of_free free, Course.follow_ok]
  exact measured

theorem measureImage_of_ok {host : Host} {start behind : Connection} {n : Int} {status : Json.Members}
    {events : List Event} (written : ((Image.write settings path).run host).result = .ok ())
    (connected : Session.reconnect.run start = ⟨.ok status, events, behind⟩)
    (measured : ((measureOn settings {}).run behind).result = .ok n) :
    ((measureImage settings path).run ⟨host, start⟩).result = .ok n := by
  have deployed : (onConnection Session.reconnect).run
      ⟨((Image.write settings path).run host).final, start⟩ =
        ⟨.ok status, events, ⟨((Image.write settings path).run host).final, behind⟩⟩ := by
    rw [onConnection, Act.run_within, connected]
  have flashed : ((onHost (Image.write settings path)).run ⟨host, start⟩).result = .ok () := written
  rw [measureImage, Image.deploy]
  simp only [bind_assoc, pure_bind]
  rw [Act.run_bind_of_ok flashed, onHost, Act.run_within, Act.run_bind, deployed, Course.follow_ok]
  exact measured

def welcoming : String := "\x7b\"status\": \x7b\"connected\": true\x7d\x7d"

/-- A bench with one image, on which both tools work, the target has everything ready at once and the
engine writes this output. -/
def serving (output : String) (tick : Float) : Bench where
  host :=
    { outcomes :=
        [.ended 0 "00000100 T measure" "", .ended 0 "" "", .ended 0 "00000100 T measure" "",
          .ended 0 output ""]
      missingTools := []
      files := { nodes := [(["a.elf"], .file Image.magic)] } }
  connection :=
    ⟨{ answers := ⟨.answered 200 welcoming, 0⟩ :: (promptly ready ready lowered).link.answers, tick },
      { url := "http://192.168.4.1/api" }⟩

theorem eq_ok_of_toOption {ε α : Type} {result : Except ε α} {a : α} (h : result.toOption = some a) :
    result = .ok a := by
  cases result with
  | ok b => exact congrArg Except.ok (Option.some.inj h)
  | error fault => cases h

theorem statusIn_welcoming :
    ∃ status, Session.statusIn "http://192.168.4.1/api" welcoming = .ok status := by
  have told : (Session.statusIn "http://192.168.4.1/api" welcoming).toOption.isSome = true := by
    decide +kernel
  obtain ⟨status, told⟩ := Option.isSome_iff_exists.mp told
  exact ⟨status, eq_ok_of_toOption told⟩

theorem measureImage_serving (output : String) (tick : Float) :
    ((measureImage Settings.defaults "a.elf").run
      ⟨(serving output tick).host.skip 1, (serving output tick).connection⟩).result = .ok 250 := by
  obtain ⟨status, told⟩ := statusIn_welcoming
  have written : ((Image.write Settings.defaults "a.elf").run
      ((serving output tick).host.skip 1)).result = .ok () := by rfl
  have connected := Session.reconnect_of_told (c := (serving output tick).connection) rfl told
  let behind : Connection :=
    ⟨{ (promptly ready ready lowered).link with clock := 0 + tick + 0, tick },
      { url := "http://192.168.4.1/api", status }⟩
  have taken := (Sample.take_promptly_at Sample.word?_ready Sample.word?_ready Sample.word?_lowered
    (0 + tick + 0) tick { behind.session with borrowed := [0] } 0.5 6).1
  have measured : ((measureOn Settings.defaults {}).run behind).result = .ok 250 := by
    refine measureOn_of_free List.not_mem_nil ((Sample.measure_of_take taken).trans ?_)
    exact Sample.cycles_eq_ok.mpr ⟨by decide, by decide⟩
  exact measureImage_of_ok written connected measured

theorem record_serving {output : String} {bound : Nat} (parsed : Bounds.parse output = .ok [bound])
    (tick : Float) :
    ((record Settings.defaults "a.elf").run (serving output tick)).result =
      .ok ⟨"a.elf", 250, bound⟩ := by
  let host := (serving output tick).host
  have checked : ((preflight Settings.defaults "a.elf").run host).result = .ok () := by rfl
  have found : ((Engine.command Settings.defaults "a.elf" "measure").run (host.skip 2)).result =
      .ok ["symex", "--elf", "a.elf", "--function", "measure", "--json"] := by rfl
  have left : ((Engine.command Settings.defaults "a.elf" "measure").run (host.skip 2)).final =
      host.skip 3 := (Engine.takes_command Settings.defaults "a.elf" "measure").final _ _ found
  have read (host : Host) :
      ((Engine.conclude {} "a.elf" ⟨0, output, ""⟩).run host).result = .ok bound := by
    simp only [Engine.conclude, Engine.answer, ne_eq, not_true_eq_false, if_false, parsed]
    rfl
  have explored : ((Engine.bound Settings.defaults {} "a.elf" "measure").run (host.skip 2)).result =
      .ok bound := by
    rw [Engine.bound_eq_command, Act.bind_result_ok]
    refine ⟨_, found, ?_⟩
    rw [left, Act.bind_result_ok]
    exact ⟨⟨0, output, ""⟩, rfl, read _⟩
  exact record_result_ok.mpr ⟨checked, 250, bound, measureImage_serving output tick, explored,
    by decide +kernel, rfl⟩

/-- Whether the engine finds 7 or 9 cycles, 250 are counted; and whether the target takes its time or not,
the bound is 7. -/
theorem numbers_independent_serving :
    let seven := "\x7b\"max_cycles\": 7\x7d"
    let nine := "\x7b\"max_cycles\": 9\x7d"
    (serving seven 0).host.SameFor 3 (serving nine 0).host ∧
    ∃ kept other late,
      ((record Settings.defaults "a.elf").run (serving seven 0)).result = .ok kept ∧
      ((record Settings.defaults "a.elf").run (serving nine 0)).result = .ok other ∧
      ((record Settings.defaults "a.elf").run (serving seven 1)).result = .ok late ∧
      other.bound = 9 ∧ kept.measured = other.measured ∧ kept.bound = late.bound := by
  intro seven nine
  have parsed : Bounds.parse seven = .ok [7] := eq_ok_of_toOption (by decide +kernel)
  have parsed' : Bounds.parse nine = .ok [9] := eq_ok_of_toOption (by decide +kernel)
  have ok := record_serving parsed 0
  have ok' := record_serving parsed' 0
  have late := record_serving parsed 1
  have hosts : (serving seven 0).host.SameFor 3 (serving nine 0).host := by
    refine ⟨rfl, rfl, fun i hi => ?_⟩
    match i, hi with
    | 0, _ | 1, _ | 2, _ => rfl
  have engine := (numbers_independent Settings.defaults "a.elf" (serving seven 0) (serving nine 0)).1
    rfl hosts
  have target := (numbers_independent Settings.defaults "a.elf" (serving seven 0) (serving seven 1)).2 rfl
  exact ⟨hosts, _, _, _, ok, ok', late, rfl, engine.2 _ _ ok ok', target _ _ ok late⟩

end Serving

end Bench

end TickBound
