import TickBound.Proofs.Independence
import TickBound.Proofs.MarkerGate

/-!
# What comes of a program

An operation that starts a program is decided by what becomes of it. A tool of the search path gives its
output if it succeeds, and the tool that writes an image and the engine are judged by how they ended; what
they were given to read has no part in it.
-/

namespace TickBound

namespace Host

variable {host : Host} {tool place output : String} {arguments : List String} {fault : Fault}

def upcoming (host : Host) : Outcome :=
  host.outcomes.headD .notFound

/-- What becomes of a tool if it is next. One that is not on the search path cannot be found. -/
def toolOutcome (host : Host) (tool : String) : Outcome :=
  if tool ∈ host.missingTools then .notFound else host.upcoming

def settled (program : String) (more : List String) (limit : Option Float) :
    Outcome → Except ProgramFault Finished
  | .ended code output errors => .ok ⟨code, output, errors⟩
  | .notFound => .error (.notFound program)
  | .denied => .error (.denied program)
  | .timedOut => .error (.timedOut (program :: more) limit)

theorem run_settled (program : String) (more : List String) (input : Option String)
    (limit : Option Float) (host : Host) :
    (run (program :: more) input limit).run host =
      ⟨(settled program more limit host.upcoming).mapError fun fault => .outside (.program fault),
        [.ran (program :: more) input limit host.upcoming], host.skip 1⟩ := by
  have left : host.behind = host.skip 1 := by rw [behind, skip, List.drop_one]
  rw [run, Act.run_bind, run_start rfl, Course.follow_ok, left]
  change _ = (⟨_, [.ran _ input limit (host.outcomes.headD .notFound)], _⟩ : Course Host Finished)
  rw [upcoming]
  cases host.outcomes.headD .notFound with
  | ended code output errors => rfl
  | notFound | denied | timedOut => rfl

/-! ## Tools of the search path -/

def toolAnswer (place : String) (arguments : List String) : Outcome → Except ProgramFault String
  | .ended code output _ =>
      if code ≠ 0 then .error (.failed (place :: arguments) code) else .ok output
  | .notFound => .error (.notFound place)
  | .denied => .error (.denied place)
  | .timedOut => .error (.timedOut (place :: arguments) none)

theorem toolAnswer_eq_ok {outcome : Outcome} :
    toolAnswer place arguments outcome = .ok output ↔ ∃ errors, outcome = .ended 0 output errors := by
  cases outcome with
  | notFound | denied | timedOut => simp [toolAnswer]
  | ended code text errors =>
      by_cases success : code = 0
      · simp [toolAnswer, success]
      · simp [toolAnswer, success]

/-- Only time that ran out is no failure of a tool. -/
theorem isFailure_of_toolAnswer {outcome : Outcome} {cause : ProgramFault}
    (h : toolAnswer place arguments outcome = .error cause) (timely : outcome ≠ .timedOut) :
    cause.isFailure = true := by
  cases outcome with
  | timedOut => exact absurd rfl timely
  | notFound | denied =>
      cases h
      rfl
  | ended code text errors =>
      rw [toolAnswer] at h
      split at h
      · cases h
        rfl
      · cases h

theorem toolOutput_of_missing (missing : tool ∈ host.missingTools) (arguments : List String) :
    (toolOutput tool arguments).run host = ⟨.error (.outside (.program (.notOnPath tool))), [], host⟩ := by
  have listed : host.missingTools.contains tool = true := by simpa using missing
  rw [toolOutput, Act.run_bind, Act.run_reads, Course.follow_ok, if_pos listed]
  rfl

theorem toolOutput_of_present (present : tool ∉ host.missingTools) (arguments : List String) :
    (toolOutput tool arguments).run host =
      ⟨(toolAnswer (toolPlace tool) arguments host.upcoming).mapError fun fault =>
          .outside (.program fault),
        [.ran (toolPlace tool :: arguments) none none host.upcoming], host.skip 1⟩ := by
  have listed : ¬ host.missingTools.contains tool = true := by simpa using present
  rw [toolOutput, Act.run_bind, Act.run_reads, Course.follow_ok, if_neg listed, Act.run_bind,
    run_settled]
  cases host.upcoming with
  | notFound | denied | timedOut => rfl
  | ended code text errors =>
      by_cases success : code = 0
      · simp [settled, toolAnswer, success, mapError_ok]
      · simp [settled, toolAnswer, success, mapError_ok, mapError_error]

theorem toolOutput_eq_ok :
    ((toolOutput tool arguments).run host).result = .ok output ↔
      ∃ errors, host.toolOutcome tool = .ended 0 output errors := by
  by_cases missing : tool ∈ host.missingTools
  · rw [toolOutput_of_missing missing, toolOutcome, if_pos missing]
    simp
  · rw [toolOutput_of_present missing, toolOutcome, if_neg missing, mapError_eq_ok, toolAnswer_eq_ok]

/-- A tool that does not succeed is a failure of a program, unless its time runs out. -/
theorem fault_of_toolOutput (h : ((toolOutput tool arguments).run host).result = .error fault)
    (timely : host.toolOutcome tool ≠ .timedOut) :
    ∃ cause, fault = .outside (.program cause) ∧ cause.isFailure = true := by
  by_cases missing : tool ∈ host.missingTools
  · rw [toolOutput_of_missing missing] at h
    cases h
    exact ⟨_, rfl, rfl⟩
  · rw [toolOutput_of_present missing, mapError_eq_error] at h
    rw [toolOutcome, if_neg missing] at timely
    obtain ⟨cause, answered, same⟩ := h
    exact ⟨cause, same.symm, isFailure_of_toolAnswer answered timely⟩

/-- What is only read off the output of a tool comes to a result as the tool does. -/
theorem reading_eq_ok {α : Type} {read : String → α} {a : α} :
    ((do let output ← toolOutput tool arguments; pure (read output)).run host).result = .ok a ↔
      ∃ output errors, host.toolOutcome tool = .ended 0 output errors ∧ read output = a := by
  rw [Act.bind_result_ok]
  simp only [toolOutput_eq_ok, Act.run_pure, Except.ok.injEq]
  constructor
  · intro h
    obtain ⟨output, ⟨errors, ended⟩, same⟩ := h
    exact ⟨output, errors, ended, same⟩
  · intro h
    obtain ⟨output, errors, ended, same⟩ := h
    exact ⟨output, ⟨errors, ended⟩, same⟩

/-- What is only read off the output of a tool fails as the tool does. -/
theorem fault_of_reading {α : Type} {read : String → α}
    (h : ((do let output ← toolOutput tool arguments; pure (read output)).run host).result =
      .error fault)
    (timely : host.toolOutcome tool ≠ .timedOut) :
    ∃ cause, fault = .outside (.program cause) ∧ cause.isFailure = true := by
  rw [Act.bind_result_error] at h
  rcases h with failed | ⟨output, -, read⟩
  · exact fault_of_toolOutput failed timely
  · cases read

end Host

/-! ## Symbols and markers -/

namespace Host

def Finds (host : Host) (symbol : String) (address : Nat) : Prop :=
  ∃ output errors, host.toolOutcome Image.symbolTool = .ended 0 output errors ∧
    SymbolLine.find? output.toList symbol.toList = some address

def Counts (host : Host) (count : Nat) : Prop :=
  ∃ output errors, host.toolOutcome Image.disassembler = .ended 0 output errors ∧
    Disassembly.countMarkers output.toList = count

theorem classify_failure {named : ProgramFault → Fault} {cause : ProgramFault}
    (failure : cause.isFailure = true) : classify named (.outside (.program cause)) = named cause := by
  rw [classify, if_pos failure]

end Host

namespace Image

variable {host : Host} {path symbol : String} {fault : Fault}

theorem symbolAddress_eq_some {address : Nat} :
    ((symbolAddress path symbol).run host).result = .ok (some address) ↔ host.Finds symbol address :=
  Host.reading_eq_ok

theorem markerCount_eq_ok {count : Nat} :
    ((markerCount path symbol).run host).result = .ok count ↔ host.Counts count :=
  Host.reading_eq_ok

theorem inspect_eq_ok {address count : Nat} :
    ((inspect path symbol).run host).result = .ok (address, count) ↔
      host.Finds symbol address ∧ (host.skip 1).Counts count := by
  rw [inspect, Act.bind_result_ok]
  constructor
  · intro h
    obtain ⟨found, listed, h⟩ := h
    have left : ((symbolAddress path symbol).run host).final = host.skip 1 :=
      (takes_symbolAddress path symbol).final host found listed
    cases found with
    | none => cases h
    | some own =>
        obtain ⟨number, counted, same⟩ := Act.bind_result_ok.mp h
        cases same
        rw [left] at counted
        exact ⟨symbolAddress_eq_some.mp listed, markerCount_eq_ok.mp counted⟩
  · intro h
    have listed : ((symbolAddress path symbol).run host).result = .ok (some address) :=
      symbolAddress_eq_some.mpr h.1
    have left : ((symbolAddress path symbol).run host).final = host.skip 1 :=
      (takes_symbolAddress path symbol).final host _ listed
    refine ⟨some address, listed, Act.bind_result_ok.mpr ⟨count, ?_, rfl⟩⟩
    rw [left]
    exact markerCount_eq_ok.mpr h.2

/-- An image has its markers just where a listing has the symbol and the disassembly behind it both
markers. -/
theorem checkMarkers_eq_ok :
    ((checkMarkers path symbol).run host).result = .ok () ↔
      (∃ address, host.Finds symbol address) ∧ (host.skip 1).Counts markersPerRegion := by
  rw [checkMarkers, Act.bind_result_ok]
  constructor
  · intro h
    obtain ⟨⟨address, count⟩, inspected, h⟩ := h
    by_cases both : count = markersPerRegion
    · rw [Act.run_mapFault_of_ok inspected, inspect_eq_ok, both] at inspected
      exact ⟨⟨address, inspected.1⟩, inspected.2⟩
    · simp [both] at h
  · intro h
    obtain ⟨⟨address, found⟩, counted⟩ := h
    have inspected : ((inspect path symbol).run host).result = .ok (address, markersPerRegion) :=
      inspect_eq_ok.mpr ⟨found, counted⟩
    exact ⟨(address, markersPerRegion), by rw [Act.run_mapFault, inspected]; rfl, rfl⟩

/-- An inspection that fails says that there is no symbol, or is stopped by a tool. -/
theorem fault_of_inspect (h : ((inspect path symbol).run host).result = .error fault)
    (listing : host.toolOutcome symbolTool ≠ .timedOut)
    (disassembly : (∃ address, host.Finds symbol address) →
      (host.skip 1).toolOutcome disassembler ≠ .timedOut) :
    fault = .markers (.symbolMissing path symbol) ∨
      ∃ cause, fault = .outside (.program cause) ∧ cause.isFailure = true := by
  rw [inspect, Act.bind_result_error] at h
  rcases h with failed | ⟨found, listed, failed⟩
  · exact .inr (Host.fault_of_reading failed listing)
  · have left : ((symbolAddress path symbol).run host).final = host.skip 1 :=
      (takes_symbolAddress path symbol).final host found listed
    cases found with
    | none =>
        cases failed
        exact .inl rfl
    | some address =>
        have found : ∃ address, host.Finds symbol address :=
          ⟨address, symbolAddress_eq_some.mp listed⟩
        rcases Act.bind_result_error.mp failed with failed | ⟨count, -, counted⟩
        · rw [left] at failed
          exact .inr (Host.fault_of_reading failed (disassembly found))
        · cases counted

/-- Whatever comes of the tools, a check that fails is a failure of the markers. -/
theorem kind?_of_checkMarkers (h : ((checkMarkers path symbol).run host).result = .error fault)
    (listing : host.toolOutcome symbolTool ≠ .timedOut)
    (disassembly : (∃ address, host.Finds symbol address) →
      (host.skip 1).toolOutcome disassembler ≠ .timedOut) :
    fault.kind? = some .markers := by
  rw [checkMarkers, Act.bind_result_error] at h
  rcases h with failed | ⟨⟨address, count⟩, -, failed⟩
  · obtain ⟨cause, inspected, same⟩ := mapError_eq_error.mp failed
    rw [← same]
    rcases fault_of_inspect inspected listing disassembly with absent | ⟨own, stopped, failure⟩
    · rw [absent]
      rfl
    · rw [stopped, Host.classify_failure failure]
      rfl
  · by_cases both : count = markersPerRegion
    · simp [both] at failed
    · simp only [ne_eq, both, not_false_eq_true, if_true] at failed
      cases failed
      rfl

end Image

namespace Engine

variable {settings : Settings} {host : Host} {path entry program : String} {more : List String}
  {fault : Fault}

/-! ## The entry symbol -/

theorem entryAddress_eq_ok {address : Nat} :
    ((entryAddress path entry).run host).result = .ok address ↔ host.Finds entry address := by
  rw [entryAddress, Act.bind_result_ok]
  constructor
  · intro h
    obtain ⟨found, listed, h⟩ := h
    rw [Act.run_mapFault_of_ok listed] at listed
    cases found with
    | none => cases h
    | some own =>
        cases h
        exact Image.symbolAddress_eq_some.mp listed
  · intro found
    have listed : ((Image.symbolAddress path entry).run host).result = .ok (some address) :=
      Image.symbolAddress_eq_some.mpr found
    exact ⟨some address, by rw [Act.run_mapFault, listed]; rfl, rfl⟩

/-- Whatever comes of the tool, an entry that is not found is a failure of the exploration. -/
theorem kind?_of_entryAddress (h : ((entryAddress path entry).run host).result = .error fault)
    (listing : host.toolOutcome Image.symbolTool ≠ .timedOut) : fault.kind? = some .symbolic := by
  rw [entryAddress, Act.bind_result_error] at h
  rcases h with failed | ⟨found, -, failed⟩
  · obtain ⟨cause, listed, same⟩ := mapError_eq_error.mp failed
    obtain ⟨own, stopped, failure⟩ := Host.fault_of_reading listed listing
    rw [← same, stopped, Host.classify_failure failure]
    rfl
  · cases found with
    | none =>
        cases failed
        rfl
    | some address => cases failed

/-! ## The engine -/

/-- What an exploration comes to by what becomes of the engine. -/
def explored (path program : String) (more : List String) : Outcome → Except Fault (List Nat)
  | .ended code output errors =>
      if code ≠ 0 then .error (.engine (.failed path code (Text.trimmed errors)))
      else (Bounds.parse output).mapError .engine
  | .notFound => .error (.engine (.engineMissing program))
  | .denied => .error (.outside (.program (.denied program)))
  | .timedOut => .error (.outside (.program (.timedOut (program :: more) none)))

theorem explored_eq_ok {outcome : Outcome} {bounds : List Nat} :
    explored path program more outcome = .ok bounds ↔
      ∃ output errors, outcome = .ended 0 output errors ∧ Bounds.parse output = .ok bounds := by
  cases outcome with
  | notFound | denied | timedOut => simp [explored]
  | ended code output errors =>
      by_cases success : code = 0
      · simp [explored, success, mapError_eq_ok]
      · simp [explored, success]

/-- An engine that was allowed to start and has ended fails as a failure of the exploration. -/
theorem kind?_of_explored {outcome : Outcome} (h : explored path program more outcome = .error fault)
    (allowed : outcome ≠ .denied) (timely : outcome ≠ .timedOut) : fault.kind? = some .symbolic := by
  cases outcome with
  | denied => exact absurd rfl allowed
  | timedOut => exact absurd rfl timely
  | notFound =>
      cases h
      rfl
  | ended code output errors =>
      rw [explored] at h
      split at h
      · cases h
        rfl
      · obtain ⟨cause, -, same⟩ := mapError_eq_error.mp h
        rw [← same]
        rfl

/-- Reporting bounds leaves nothing but messages. -/
theorem run_noteBounds {σ : Type} (i : Nat) (bounds : List Nat) (s : σ) :
    ∃ notes, external notes = [] ∧ (noteBounds i bounds).run s = ⟨.ok (), notes, s⟩ := by
  induction bounds generalizing i with
  | nil => exact ⟨[], rfl, rfl⟩
  | cons bound more ih =>
      obtain ⟨notes, silent, run⟩ := ih (i + 1)
      rw [noteBounds, Act.run_bind, Act.run_note, Course.follow_ok, run]
      exact ⟨_, (external_noted _ _ _ notes).trans silent, rfl⟩

/-- What is read from an engine that has ended depends on the options in its messages only. -/
theorem run_answer (options : EngineOptions) (path program : String) (more : List String)
    (code : Int) (output errors : String) (host : Host) :
    ∃ notes, external notes = [] ∧
      (answer options path ⟨code, output, errors⟩).run host =
        ⟨explored path program more (.ended code output errors), notes, host⟩ := by
  rw [answer, explored]
  by_cases failed : code ≠ 0
  · rw [if_pos failed, if_pos failed]
    exact ⟨[], rfl, rfl⟩
  · rw [if_neg failed, if_neg failed]
    dsimp only
    cases Bounds.parse output with
    | error cause => exact ⟨[], rfl, rfl⟩
    | ok bounds =>
        cases options.showPathResults.isTruthy with
        | false => exact ⟨[], rfl, rfl⟩
        | true =>
            obtain ⟨notes, silent, run⟩ := run_noteBounds 0 bounds host
            refine ⟨notes, silent, ?_⟩
            have shown : (noteBounds 0 bounds >>= fun _ => pure bounds : Act Host (List Nat)).run host =
                ⟨.ok bounds, notes, host⟩ := by
              rw [Act.run_bind, run, Course.follow_ok, Act.run_pure, List.append_nil]
            exact shown

theorem explore_eq_command (settings : Settings) (options : EngineOptions) (path entry : String) :
    explore settings options path entry =
      command settings path entry >>= fun arguments =>
        (Host.run arguments (some options.text) none).mapFault engineCause >>= answer options path := by
  rw [explore, command]
  simp only [bind_assoc]
  rfl

/-- The engine is started once, with the options for an input, and what becomes of it is all that
counts. -/
theorem run_engine (options : EngineOptions) (path program : String) (more : List String)
    (host : Host) :
    ∃ notes, external notes = [] ∧
      ((Host.run (program :: more) (some options.text) none).mapFault engineCause >>=
          answer options path).run host =
        ⟨explored path program more host.upcoming,
          .ran (program :: more) (some options.text) none host.upcoming :: notes, host.skip 1⟩ := by
  rw [Act.run_bind, Act.run_mapFault, Host.run_settled]
  cases host.upcoming with
  | notFound | denied | timedOut => exact ⟨[], rfl, rfl⟩
  | ended code output errors =>
      obtain ⟨notes, silent, run⟩ := run_answer options path program more code output errors (host.skip 1)
      have answered := Course.follow_ok (⟨code, output, errors⟩ : Finished)
        [.ran (program :: more) (some options.text) none (.ended code output errors)] (host.skip 1)
        fun finished host => (answer options path finished).run host
      rw [run] at answered
      exact ⟨notes, silent, answered⟩

/-- The command of the engine is known just where a listing has the entry. -/
theorem command_eq_ok (made : settings.exploreArguments path entry = .ok (program :: more))
    {arguments : List String} :
    ((command settings path entry).run host).result = .ok arguments ↔
      (∃ address, host.Finds entry address) ∧ arguments = program :: more := by
  rw [command, Act.bind_result_ok, made]
  constructor
  · intro h
    obtain ⟨address, found, given⟩ := h
    cases given
    exact ⟨⟨address, entryAddress_eq_ok.mp found⟩, rfl⟩
  · intro h
    obtain ⟨⟨address, found⟩, rfl⟩ := h
    exact ⟨address, entryAddress_eq_ok.mpr found, rfl⟩

theorem explore_of_command
    (reached : ((command settings path entry).run host).result = .ok (program :: more))
    (options : EngineOptions) :
    ∃ notes, external notes = [] ∧
      (explore settings options path entry).run host =
        ⟨explored path program more (host.skip 1).upcoming,
          ((command settings path entry).run host).events ++
            .ran (program :: more) (some options.text) none (host.skip 1).upcoming :: notes,
          host.skip 2⟩ := by
  have left : ((command settings path entry).run host).final = host.skip 1 :=
    (takes_command settings path entry).final host _ reached
  obtain ⟨notes, silent, run⟩ := run_engine options path program more (host.skip 1)
  refine ⟨notes, silent, ?_⟩
  rw [explore_eq_command, Act.run_bind_of_ok reached, left, run, Host.skip_skip]

end Engine

namespace Image

variable {settings : Settings} {host : Host} {path program : String} {more : List String}
  {fault : Fault}

/-! ## The tool that writes an image -/

def written (settings : Settings) (path program : String) : Outcome → Except Fault Unit
  | .ended code output _ =>
      if code ≠ 0 then .error (.flash (.failed path code (tail output))) else .ok ()
  | .notFound => .error (.flash (.toolMissing program))
  | .denied => .error (.outside (.program (.denied program)))
  | .timedOut => .error (.flash (.timedOut path settings.flashTimeout))

theorem written_eq_ok {outcome : Outcome} :
    written settings path program outcome = .ok () ↔ outcome.Succeeds := by
  cases outcome with
  | notFound | denied | timedOut => simp [written, Outcome.Succeeds]
  | ended code output errors => by_cases success : code = 0 <;> simp [written, Outcome.Succeeds, success]

theorem exists_written_error {outcome : Outcome} (failed : ¬ outcome.Succeeds)
    (settings : Settings) (path program : String) :
    ∃ fault, written settings path program outcome = .error fault := by
  cases ended : written settings path program outcome with
  | ok u => exact absurd (written_eq_ok.mp ended) failed
  | error fault => exact ⟨fault, rfl⟩

/-- A tool that was allowed to start fails as a failure to write the image. -/
theorem kind?_of_written {outcome : Outcome}
    (h : written settings path program outcome = .error fault) (allowed : outcome ≠ .denied) :
    fault.kind? = some .flash := by
  cases outcome with
  | denied => exact absurd rfl allowed
  | notFound | timedOut =>
      cases h
      rfl
  | ended code output errors =>
      rw [written] at h
      split at h
      · cases h
        rfl
      · cases h

/-- The tool is started once for a file that may be written, and what becomes of it decides. -/
theorem write_of_checked (made : settings.flashArguments path = .ok (program :: more))
    (checked : check host.files path = .ok ()) :
    ∃ notes, external notes = [] ∧
      (write settings path).run host =
        ⟨written settings path program host.upcoming,
          notes ++ [.ran (program :: more) none (some settings.flashTimeout) host.upcoming],
          host.skip 1⟩ := by
  have passed : (checkFile path).run host = ⟨.ok (), [], host⟩ := by
    rw [checkFile, Act.run_bind, Act.run_reads, Course.follow_ok, Act.run_ofExcept, checked]
    rfl
  refine ⟨[.noted .info .flashing s!"Flashing {Path.name path}",
    .noted .debug .flashing ("Running " ++ " ".intercalate (program :: more))], rfl, ?_⟩
  rw [write, Act.run_bind, passed, Course.follow_ok, made, Act.run_bind, Act.run_ofExcept]
  rw [mapError_ok, Course.follow_ok, Act.run_bind, Act.run_note, Course.follow_ok, Act.run_bind,
    Act.run_note, Course.follow_ok, Act.run_bind, Act.run_mapFault, Host.run_settled]
  cases host.upcoming with
  | notFound | denied | timedOut => rfl
  | ended code output errors =>
      by_cases success : code = 0
      · simp [Host.settled, written, success, mapError_ok]
      · simp [Host.settled, written, success, mapError_ok]

theorem write_of_unchecked (refused : check host.files path = .error fault) (settings : Settings) :
    (write settings path).run host = ⟨.error fault, [], host⟩ := by
  have stopped : (checkFile path).run host = ⟨.error fault, [], host⟩ := by
    rw [checkFile, Act.run_bind, Act.run_reads, Course.follow_ok, Act.run_ofExcept, refused]
    rfl
  rw [write, Act.run_bind, stopped, Course.follow_error]

end Image

end TickBound
