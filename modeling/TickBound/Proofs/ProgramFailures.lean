import TickBound.Proofs.Deployment

/-!
# Failures of programs by stage

What becomes of a program is a failure of the stage that started it: of the markers, of the exploration or
of writing the image. A start that is denied is one only for the tools of the search path; for the two
commands of the settings it stays what it is.
-/

namespace TickBound

variable {settings : Settings} {path symbol entry program : String} {more : List String}

theorem Outcome.succeeds_of_ended {outcome : Outcome} {output errors : String}
    (h : outcome = .ended 0 output errors) : outcome.Succeeds := by
  rw [h]
  rfl

theorem exists_error {ε α : Type} {result : Except ε α} (h : ∀ a, result ≠ .ok a) :
    ∃ fault, result = .error fault := by
  cases result with
  | ok a => exact absurd rfl (h a)
  | error fault => exact ⟨fault, rfl⟩

namespace Image

variable {host : Host}

/-- Markers are not found without both tools. -/
theorem succeeds_of_checkMarkers (h : ((checkMarkers path symbol).run host).result = .ok ()) :
    (host.toolOutcome symbolTool).Succeeds ∧ ((host.skip 1).toolOutcome disassembler).Succeeds := by
  obtain ⟨⟨address, _, _, listed, -⟩, _, _, shown, -⟩ := checkMarkers_eq_ok.mp h
  exact ⟨Outcome.succeeds_of_ended listed, Outcome.succeeds_of_ended shown⟩

end Image

namespace Engine

variable {host : Host} {options : EngineOptions} {fault : Fault}

theorem succeeds_of_entryAddress {address : Nat}
    (h : ((entryAddress path entry).run host).result = .ok address) :
    (host.toolOutcome Image.symbolTool).Succeeds := by
  obtain ⟨_, _, listed, -⟩ := entryAddress_eq_ok.mp h
  exact Outcome.succeeds_of_ended listed

/-- The command of the engine is missed only for the listing, if there is one at all. -/
theorem kind?_of_command (made : settings.exploreArguments path entry = .ok (program :: more))
    (h : ((command settings path entry).run host).result = .error fault)
    (listing : host.toolOutcome Image.symbolTool ≠ .timedOut) : fault.kind? = some .symbolic := by
  rw [command, Act.bind_result_error, made] at h
  rcases h with failed | ⟨address, -, given⟩
  · exact kind?_of_entryAddress failed listing
  · cases given

theorem explore_of_error (failed : ((command settings path entry).run host).result = .error fault)
    (options : EngineOptions) :
    ((explore settings options path entry).run host).result = .error fault := by
  rw [explore_eq_command, Act.run_bind_of_error failed]

/-- Paths are not found without the tool and the engine. -/
theorem succeeds_of_explore (made : settings.exploreArguments path entry = .ok (program :: more))
    {bounds : List Nat} (h : ((explore settings options path entry).run host).result = .ok bounds) :
    (host.toolOutcome Image.symbolTool).Succeeds ∧ (host.skip 1).upcoming.Succeeds := by
  cases reached : ((command settings path entry).run host).result with
  | error fault =>
      rw [explore_of_error reached] at h
      cases h
  | ok arguments =>
      obtain ⟨⟨address, _, _, listed, -⟩, rfl⟩ := (command_eq_ok made).mp reached
      obtain ⟨notes, silent, run⟩ := explore_of_command reached options
      rw [run] at h
      obtain ⟨_, _, ended, -⟩ := explored_eq_ok.mp h
      exact ⟨Outcome.succeeds_of_ended listed, Outcome.succeeds_of_ended ended⟩

/-- Whatever comes of the tool and of an engine that may start, paths that are not found are a failure of
the exploration. -/
theorem kind?_of_explore (made : settings.exploreArguments path entry = .ok (program :: more))
    (h : ((explore settings options path entry).run host).result = .error fault)
    (listing : host.toolOutcome Image.symbolTool ≠ .timedOut)
    (allowed : (∃ address, host.Finds entry address) → (host.skip 1).upcoming ≠ .denied)
    (timely : (∃ address, host.Finds entry address) → (host.skip 1).upcoming ≠ .timedOut) :
    fault.kind? = some .symbolic := by
  cases reached : ((command settings path entry).run host).result with
  | error own =>
      rw [explore_of_error reached] at h
      cases h
      exact kind?_of_command made reached listing
  | ok arguments =>
      obtain ⟨found, rfl⟩ := (command_eq_ok made).mp reached
      obtain ⟨notes, silent, run⟩ := explore_of_command reached options
      rw [run] at h
      exact kind?_of_explored h (allowed found) (timely found)

end Engine

/-- Whatever becomes of a program without running out of time, a failure of it is one of its stage: of the
markers for both tools that check them, of the exploration for the tool that finds its entry and for the
engine, and of writing for the tool that writes an image, which may also run out of time. Nothing else
comes of them. But the engine and the tool that writes have to be allowed to start. -/
theorem program_failures_by_stage (flashes : settings.flashArguments path = .ok (program :: more))
    {engine : String} {others : List String}
    (explores : settings.exploreArguments path entry = .ok (engine :: others)) :
    (∀ (symbol : String) (host : Host),
      let result := ((Image.checkMarkers path symbol).run host).result
      let nm := host.toolOutcome Image.symbolTool
      let objdump := (host.skip 1).toolOutcome Image.disassembler
      nm ≠ .timedOut → ((∃ address, host.Finds symbol address) → objdump ≠ .timedOut) →
        (¬ nm.Succeeds ∨ ¬ objdump.Succeeds → ∃ fault, result = .error fault) ∧
        ∀ fault, result = .error fault → fault.kind? = some .markers) ∧
    (∀ host : Host,
      let result := ((Engine.entryAddress path entry).run host).result
      let nm := host.toolOutcome Image.symbolTool
      nm ≠ .timedOut →
        (¬ nm.Succeeds → ∃ fault, result = .error fault) ∧
        ∀ fault, result = .error fault → fault.kind? = some .symbolic) ∧
    (∀ bench : Bench, Image.check bench.host.files path = .ok () →
      let result := ((Image.deploy settings path).run bench).result
      let tool := bench.host.upcoming
      tool ≠ .denied →
        (¬ tool.Succeeds → ∃ fault, result = .error fault ∧ fault.kind? = some .flash) ∧
        (tool.Succeeds →
          result = (Session.reconnect.run bench.connection).result.map fun _ => ())) ∧
    ∀ (options : EngineOptions) (host : Host),
      let result := ((Engine.explore settings options path entry).run host).result
      let nm := host.toolOutcome Image.symbolTool
      let explorer := (host.skip 1).upcoming
      nm ≠ .timedOut →
      ((∃ address, host.Finds entry address) → explorer ≠ .denied ∧ explorer ≠ .timedOut) →
        (¬ nm.Succeeds ∨ ¬ explorer.Succeeds → ∃ fault, result = .error fault) ∧
        ∀ fault, result = .error fault → fault.kind? = some .symbolic := by
  refine ⟨?_, ?_, ?_, ?_⟩
  · intro symbol host result nm objdump listing disassembly
    constructor
    · intro fails
      apply exists_error
      intro u found
      have both := Image.succeeds_of_checkMarkers found
      exact fails.elim (absurd both.1) (absurd both.2)
    · exact fun fault failed => Image.kind?_of_checkMarkers failed listing disassembly
  · intro host result nm listing
    constructor
    · intro fails
      apply exists_error
      exact fun address found => fails (Engine.succeeds_of_entryAddress found)
    · exact fun fault failed => Engine.kind?_of_entryAddress failed listing
  · intro bench checked result tool allowed
    constructor
    · intro fails
      obtain ⟨fault, failed⟩ := Image.exists_written_error fails settings path program
      obtain ⟨notes, -, run⟩ := Image.deploy_of_unwritten flashes checked failed
      exact ⟨fault, congrArg Course.result run, Image.kind?_of_written failed allowed⟩
    · intro succeeds
      obtain ⟨notes, -, run⟩ := Image.deploy_of_written flashes checked succeeds
      exact congrArg Course.result run
  · intro options host result nm explorer listing exploration
    constructor
    · intro fails
      apply exists_error
      intro bounds found
      have both := Engine.succeeds_of_explore explores found
      exact fails.elim (absurd both.1) (absurd both.2)
    · intro fault failed
      exact Engine.kind?_of_explore explores failed listing (fun found => (exploration found).1)
        fun found => (exploration found).2

/-- A listing that is killed, a tool that runs out of time and an engine that ends with 1 are failures of the
markers, of writing and of the exploration. -/
theorem program_failures_by_stage_killed :
    let killed : Host := ⟨[.ended (-9) "" ""], [], .empty⟩
    let late : Bench :=
      ⟨⟨[.timedOut], [], { nodes := [(["a.elf"], .file Image.magic)] }⟩, ⟨{ answers := [] }, { url := "" }⟩⟩
    let stuck : Host := ⟨[.ended 0 "00000100 T measure" "", .ended 1 "" ""], [], .empty⟩
    Settings.defaults.flashArguments "a.elf" =
        .ok ["probe-rs", "download", "--chip", "RP2040", "--verify", "a.elf"] ∧
      Settings.defaults.exploreArguments "a.elf" "measure" =
        .ok ["symex", "--elf", "a.elf", "--function", "measure", "--json"] ∧
      (∃ fault, ((Image.checkMarkers "a.elf" "measure").run killed).result = .error fault ∧
        fault.kind? = some .markers) ∧
      (∃ fault, ((Engine.entryAddress "a.elf" "measure").run killed).result = .error fault ∧
        fault.kind? = some .symbolic) ∧
      (∃ fault, ((Image.deploy Settings.defaults "a.elf").run late).result = .error fault ∧
        fault.kind? = some .flash) ∧
      ∃ fault, ((Engine.explore Settings.defaults {} "a.elf" "measure").run stuck).result =
        .error fault ∧ fault.kind? = some .symbolic := by
  intro killed late stuck
  have flashes : Settings.defaults.flashArguments "a.elf" =
      .ok ["probe-rs", "download", "--chip", "RP2040", "--verify", "a.elf"] := rfl
  have explores : Settings.defaults.exploreArguments "a.elf" "measure" =
      .ok ["symex", "--elf", "a.elf", "--function", "measure", "--json"] := rfl
  obtain ⟨markers, entry, writing, exploring⟩ := program_failures_by_stage flashes explores
  have unlisted : ¬ (killed.toolOutcome Image.symbolTool).Succeeds :=
    (by decide : ¬ (-9 : Int) = 0)
  have checked := markers "measure" killed nofun nofun
  have located := entry killed nofun
  have written := writing late rfl nofun
  have explored := exploring {} stuck nofun fun _ => ⟨nofun, nofun⟩
  refine ⟨flashes, explores, ?_, ?_, written.1 nofun, ?_⟩
  · obtain ⟨fault, failed⟩ := checked.1 (.inl unlisted)
    exact ⟨fault, failed, checked.2 fault failed⟩
  · obtain ⟨fault, failed⟩ := located.1 unlisted
    exact ⟨fault, failed, located.2 fault failed⟩
  · obtain ⟨fault, failed⟩ := explored.1 (.inr (by decide : ¬ (1 : Int) = 0))
    exact ⟨fault, failed, explored.2 fault failed⟩

/-- A tool that writes and an engine that are not allowed to start fail for a cause outside of the
measurement, which is of no stage. -/
theorem commands_denied_unclassified :
    let bench : Bench :=
      ⟨⟨[.denied], [], { nodes := [(["a.elf"], .file Image.magic)] }⟩, ⟨{ answers := [] }, { url := "" }⟩⟩
    let host : Host := ⟨[.ended 0 "00000100 T measure" "", .denied], [], .empty⟩
    let writing := ((Image.deploy Settings.defaults "a.elf").run bench).result
    let exploring := ((Engine.explore Settings.defaults {} "a.elf" "measure").run host).result
    (writing = .error (.outside (.program (.denied "probe-rs"))) ∧
      (Fault.outside (.program (.denied "probe-rs"))).kind? = none) ∧
    exploring = .error (.outside (.program (.denied "symex"))) ∧
      (Fault.outside (.program (.denied "symex"))).kind? = none :=
  ⟨⟨rfl, rfl⟩, rfl, rfl⟩

end TickBound
