import TickBound.Proofs.Outcomes
import TickBound.Proofs.RecordOrder

/-!
# Markers as a gate

Checking the markers of an image stands in front of its measurement and takes the first two outcomes of
the host. Behind a check that succeeds the measurement is the one without a check on what is left; a check
that fails is all that happens.
-/

namespace TickBound

theorem Host.toolOutput_of_ok {name output : String} {arguments : List String} {host : Host}
    (h : ((toolOutput name arguments).run host).result = .ok output) :
    ∃ outcome rest, host.outcomes = outcome :: rest ∧
      (toolOutput name arguments).run host =
        ⟨.ok output, [.ran (toolPlace name :: arguments) none none outcome],
          { host with outcomes := rest }⟩ := by
  obtain ⟨outcomes, missing, files⟩ := host
  rw [toolOutput, Act.run_bind, Act.run_reads, Course.follow_ok] at h ⊢
  by_cases absent : missing.contains name
  · rw [if_pos absent] at h
    cases h
  · rw [if_neg absent] at h ⊢
    cases outcomes with
    | nil => cases h
    | cons outcome rest =>
        cases outcome with
        | notFound | denied | timedOut => cases h
        | ended code text errors =>
            rw [Act.run_bind, run, Act.run_bind, run_start rfl] at h ⊢
            by_cases ended : code = 0
            · subst ended
              cases h
              exact ⟨_, rest, rfl, rfl⟩
            · simp [ended] at h

namespace Image

variable {path symbol : String} {host : Host}

theorem symbolAddress_of_ok {found : Option Nat}
    (h : ((symbolAddress path symbol).run host).result = .ok found) :
    ∃ listing rest, host.outcomes = listing :: rest ∧
      (symbolAddress path symbol).run host =
        ⟨.ok found, [.ran ["/usr/bin/arm-none-eabi-nm", path] none none listing],
          { host with outcomes := rest }⟩ := by
  obtain ⟨output, listed, same⟩ := Act.bind_result_ok.mp h
  obtain ⟨listing, rest, first, run⟩ := Host.toolOutput_of_ok listed
  refine ⟨listing, rest, first, ?_⟩
  rw [symbolAddress, Act.run_bind_of_ok listed, same, run]
  rfl

theorem markerCount_of_ok {count : Nat}
    (h : ((markerCount path symbol).run host).result = .ok count) :
    ∃ disassembly rest, host.outcomes = disassembly :: rest ∧
      (markerCount path symbol).run host =
        ⟨.ok count,
          [.ran ["/usr/bin/arm-none-eabi-objdump", "-d", "--disassemble=" ++ symbol, path] none none
            disassembly],
          { host with outcomes := rest }⟩ := by
  obtain ⟨output, shown, same⟩ := Act.bind_result_ok.mp h
  obtain ⟨disassembly, rest, first, run⟩ := Host.toolOutput_of_ok shown
  refine ⟨disassembly, rest, first, ?_⟩
  rw [markerCount, Act.run_bind_of_ok shown, same, run]
  rfl

theorem inspect_of_ok {seen : Nat × Nat} (h : ((inspect path symbol).run host).result = .ok seen) :
    ∃ listing disassembly rest, host.outcomes = listing :: disassembly :: rest ∧
      (inspect path symbol).run host =
        ⟨.ok seen,
          [.ran ["/usr/bin/arm-none-eabi-nm", path] none none listing,
            .ran ["/usr/bin/arm-none-eabi-objdump", "-d", "--disassemble=" ++ symbol, path] none none
              disassembly],
          { host with outcomes := rest }⟩ := by
  obtain ⟨found, listed, h⟩ := Act.bind_result_ok.mp h
  obtain ⟨listing, more, first, run⟩ := symbolAddress_of_ok listed
  rw [inspect, Act.run_bind_of_ok listed, h, run]
  rw [run] at h
  cases found with
  | none => cases h
  | some address =>
      obtain ⟨count, counted, -⟩ := Act.bind_result_ok.mp h
      obtain ⟨disassembly, rest, second, run'⟩ := markerCount_of_ok counted
      obtain rfl : more = disassembly :: rest := second
      refine ⟨listing, disassembly, rest, first, ?_⟩
      dsimp only
      rw [Act.run_bind_of_ok counted, run']
      rfl

/-- Markers that were found have taken a listing and a disassembly off the host. -/
theorem checkMarkers_of_ok {u : Unit} (h : ((checkMarkers path symbol).run host).result = .ok u) :
    ∃ listing disassembly rest text, host.outcomes = listing :: disassembly :: rest ∧
      (checkMarkers path symbol).run host =
        ⟨.ok (),
          [.ran ["/usr/bin/arm-none-eabi-nm", path] none none listing,
            .ran ["/usr/bin/arm-none-eabi-objdump", "-d", "--disassemble=" ++ symbol, path] none none
              disassembly,
            .noted .debug .markers text],
          { host with outcomes := rest }⟩ := by
  obtain ⟨⟨address, count⟩, inspected, h⟩ := Act.bind_result_ok.mp h
  have same := Act.run_mapFault_of_ok inspected
  rw [checkMarkers, Act.run_bind_of_ok inspected, same]
  rw [same] at inspected h
  obtain ⟨listing, disassembly, rest, outcomes, run⟩ := inspect_of_ok inspected
  rw [run] at h ⊢
  dsimp only at h ⊢
  split at h
  · cases h
  · next both =>
      rw [if_neg both]
      exact ⟨listing, disassembly, rest, _, outcomes, rfl⟩

end Image

namespace Bench

/-- The measurement with a check of the markers in front is the check, and then the one without. -/
theorem record_verified (settings : Settings) (path : String) :
    record { settings with verifyMarkers := true } path =
      onHost (Image.checkMarkers path settings.entrySymbol) >>= fun _ =>
        record { settings with verifyMarkers := false } path := by
  have checked : preflight { settings with verifyMarkers := true } path =
      Image.checkMarkers path settings.entrySymbol >>= fun _ =>
        preflight { settings with verifyMarkers := false } path := rfl
  rw [record, checked, onHost_bind, bind_assoc]
  rfl

/-- A check of the markers decides about the measurement and has no other part in it. Behind one that
succeeds all is as it is without a check on the outcomes that are left, the session included; the fault of
one that fails is the fault of the measurement, and nothing else was done by then. -/
theorem record_behind_gate (settings : Settings) (path : String) (bench : Bench) :
    let gate := (Image.checkMarkers path settings.entrySymbol).run bench.host
    let gated := (record { settings with verifyMarkers := true } path).run bench
    let nm := ["/usr/bin/arm-none-eabi-nm", path]
    let objdump := ["/usr/bin/arm-none-eabi-objdump", "-d", "--disassemble=" ++ settings.entrySymbol, path]
    match gate.result with
    | .ok () =>
        ∃ listing disassembly rest text, bench.host.outcomes = listing :: disassembly :: rest ∧
          let plain := (record { settings with verifyMarkers := false } path).run
            ⟨{ bench.host with outcomes := rest }, bench.connection⟩
          gated.result = plain.result ∧ gated.final = plain.final ∧
            gated.events = .ran nm none none listing :: .ran objdump none none disassembly ::
              .noted .debug .markers text :: plain.events
    | .error fault =>
        gated.result = .error fault ∧ gated.final.connection = bench.connection ∧
          deeds gated.events <+: [.runs nm none none, .runs objdump none none] := by
  intro gate gated nm objdump
  let check := onHost (Image.checkMarkers path settings.entrySymbol)
  have whole : gated =
      (check >>= fun _ => record { settings with verifyMarkers := false } path).run bench :=
    congrArg (Act.run · bench) (record_verified settings path)
  split
  · next ended =>
      obtain ⟨listing, disassembly, rest, text, outcomes, run⟩ := Image.checkMarkers_of_ok ended
      have checked : check.run bench = _ := Act.run_within _ _ _ _
      rw [run] at checked
      rw [whole, Act.run_bind, checked, Course.follow_ok]
      exact ⟨listing, disassembly, rest, text, outcomes, rfl, rfl, rfl⟩
  · next fault failed =>
      have refused : (check.run bench).result = .error fault := failed
      rw [whole, Act.run_bind_of_error refused]
      refine ⟨rfl, rfl, ?_⟩
      have begun := (Image.checkMarkers_passes path settings.entrySymbol bench.host).of_error failed
      obtain ⟨full, rfl, start⟩ := Phase.marking_inOrder.begun _ begun
      rwa [deeds_external] at start

end Bench

end TickBound
