import TickBound.Proofs.Accounts

/-!
# What a failure of a measurement is put down to

A program is started at most once by an operation that looks at its end, so the operation stops at a
program that failed. With a name that is one, commands that can be started and an offset that can be
written, every fault of a measurement has a cause in it, unless the event at its end slips through.
-/

namespace TickBound

open Act (Accountable)

variable {amiss : Prop} {last : Option Event} {fault : Fault}

def Command.Starts (command : Except TemplateFault (List String)) : Prop :=
  ∃ program more, command = .ok (program :: more)

/-! ## Programs -/

namespace Host

/-- What a fault behind the start of a program is put down to. -/
inductive RunBlame (arguments : List String) (input : Option String) (limit : Option Float) : Blame
  | empty : arguments = [] → RunBlame arguments input limit none (.outside .emptyCommand)
  | notFound (program : String) :
      RunBlame arguments input limit (some (.ran arguments input limit .notFound))
        (.outside (.program (.notFound program)))
  | denied (program : String) :
      RunBlame arguments input limit (some (.ran arguments input limit .denied))
        (.outside (.program (.denied program)))
  | timedOut :
      RunBlame arguments input limit (some (.ran arguments input limit .timedOut))
        (.outside (.program (.timedOut arguments limit)))

/-- A program that was started and ended, in whatever way, or did not; it is the one event. -/
def Settles (blame : Blame) (act : Act Host Finished) : Prop :=
  ∀ host,
    match (act.run host).result with
    | .ok finished => ∃ arguments input limit,
        (act.run host).events = [.ran arguments input limit
          (.ended finished.code finished.output finished.errors)]
    | .error _ => (act.run host).StopsAtFailure blame

variable {arguments : List String} {input : Option String} {limit : Option Float}

theorem run_settles (arguments : List String) (input : Option String) (limit : Option Float) :
    Settles (RunBlame arguments input limit) (run arguments input limit) := by
  intro host
  cases arguments with
  | nil => exact .of_own .nil (.empty rfl)
  | cons program more =>
      cases h : host.outcomes.headD .notFound with
      | ended code output errors =>
          rw [run, Act.run_bind, run_start h]
          exact ⟨program :: more, input, limit, rfl⟩
      | notFound =>
          rw [run, Act.run_bind, run_start h]
          exact .of_last id (.notFound program)
      | denied =>
          rw [run, Act.run_bind, run_start h]
          exact .of_last id (.denied program)
      | timedOut =>
          rw [run, Act.run_bind, run_start h]
          exact .of_last id .timedOut

/-- A program whose exit code is looked at. -/
theorem Settles.checked {α : Type} {blame : Blame} {act : Act Host Finished}
    {next : Finished → Act Host α} {fault : Finished → Fault} (h : Settles blame act)
    (failed : ∀ last finished, blame (some last) (fault finished))
    (rest : ∀ finished, (next finished).FailsFast blame) :
    (act >>= fun finished =>
      if finished.code ≠ 0 then .fail (fault finished) else next finished).FailsFast blame := by
  intro host
  have settled := h host
  rw [Act.run_bind]
  cases result : (act.run host).result with
  | error fault =>
      simp only [result] at settled
      rw [Course.follow_of_error result]
      exact settled.blamed result
  | ok finished =>
      simp only [result] at settled
      obtain ⟨arguments, input, limit, one⟩ := settled
      rw [Course.follow_of_ok result, one]
      by_cases ended : finished.code = 0
      · rw [if_neg (not_not_intro ended)]
        exact (rest finished _).behind (calm_singleton.mpr (not_not_intro ended))
      · rw [if_pos ended]
        exact .of_last ended (failed _ finished)

theorem Settles.mapFault {blame more : Blame} {f : Fault → Fault} {act : Act Host Finished}
    (h : Settles blame act) (le : ∀ last fault, blame last fault → more last (f fault)) :
    Settles more (act.mapFault f) := by
  intro host
  have settled := h host
  rw [Act.run_mapFault]
  cases result : (act.run host).result with
  | ok finished =>
      simp only [result] at settled
      exact settled
  | error fault =>
      simp only [result] at settled
      change Course.StopsAtFailure more _
      apply Course.StopsAtFailure.transfer settled
      · rfl
      · intro b ok
        cases ok
      · intro fault' failed
        cases failed
        exact ⟨fault, result, fun last => le last fault⟩

/-- A command that is made, and what is done with it. -/
theorem accountable_command {α : Type} {command : Except Command.TemplateFault (List String)}
    {next : List String → Act Host α} (unfit : ¬ Command.Starts command → amiss)
    (rest : ∀ arguments, (arguments = [] → amiss) → (next arguments).Accountable amiss) :
    (.ofExcept (command.mapError fun fault => .outside (.template fault)) >>= next).Accountable
      amiss := by
  cases command with
  | error template =>
      have stuck : amiss := unfit fun ⟨_, _, made⟩ => nomatch made
      intro host
      exact .of_own .nil (.of_amiss stuck)
  | ok arguments =>
      apply rest
      rintro rfl
      exact unfit fun ⟨_, _, made⟩ => nomatch made

/-- What the fault of a tool is put down to, before it gets a cause. -/
inductive ToolBlame : Blame
  | held {last : Option Event} {fault : Fault} : fault.isA .pipeline = true → ToolBlame last fault
  | failure {last : Option Event} {fault : ProgramFault} :
      fault.isFailure = true → ToolBlame last (.outside (.program fault))
  | endless (arguments : List String) :
      ToolBlame (some (.ran arguments none none .timedOut))
        (.outside (.program (.timedOut arguments none)))

theorem failsFast_toolOutput (tool : String) (arguments : List String) :
    (toolOutput tool arguments).FailsFast ToolBlame := by
  have started : Settles ToolBlame (run (toolPlace tool :: arguments) none none) := by
    rw [← Act.mapFault_id (run _ _ _)]
    apply (run_settles _ none none).mapFault
    intro last fault blamed
    cases blamed with
    | empty none => cases none
    | notFound program => exact .failure rfl
    | denied program => exact .failure rfl
    | timedOut => exact .endless _
  apply Act.FailsFast.bind (.reads _)
  intro missing
  exact .ite (fun _ => .fail (.failure rfl)) fun _ =>
    started.checked (fun _ _ => .failure rfl) fun _ => .pure _

/-- Behind the causes that failures of tools get, only time that was not limited slips through. -/
theorem ToolBlame.classify {cause : ProgramFault → Fault}
    (held : ∀ fault, (cause fault).isA .pipeline = true) (h : ToolBlame last fault) :
    Accounts amiss last (Host.classify cause fault) := by
  cases h with
  | held own =>
      have same : Host.classify cause fault = fault := by
        cases fault with
        | outside fault => cases own
        | _ => rfl
      rw [same]
      exact .held own
  | failure fails =>
      rw [Host.classify, if_pos fails]
      exact .held (held _)
  | endless arguments => exact .slip rfl

end Host

/-! ## Images -/

namespace Path

theorem mem_of_mem_parts {cs part : List Char} {c : Char} (h : part ∈ parts cs) (mem : c ∈ part) :
    c ∈ cs := by
  induction cs generalizing part with
  | nil =>
      obtain rfl : part = [] := by simpa [parts] using h
      cases mem
  | cons d rest ih =>
      unfold parts at h
      split at h
      · rcases List.mem_cons.mp h with rfl | later
        · cases mem
        · exact .tail d (ih later mem)
      · split at h
        · next first more split =>
            rcases List.mem_cons.mp h with rfl | later
            · rcases List.mem_cons.mp mem with rfl | mem
              · exact .head rest
              · exact .tail d (ih (by simp [split]) mem)
            · exact .tail d (ih (by simp [split, later]) mem)
        · obtain rfl := List.mem_singleton.mp h
          obtain rfl := List.mem_singleton.mp mem
          exact .head rest

theorem mem_of_mem_intercalate {c d : Char} {texts : List (List Char)}
    (h : c ∈ List.intercalate [d] texts) : c = d ∨ ∃ text ∈ texts, c ∈ text := by
  induction texts with
  | nil => cases h
  | cons text more ih =>
      cases more with
      | nil => exact .inr ⟨text, .head _, by simpa [List.intercalate] using h⟩
      | cons next more =>
          rw [List.intercalate_cons_cons, List.append_assoc, List.mem_append] at h
          rcases h with here | later
          · exact .inr ⟨text, .head _, here⟩
          · rcases List.mem_cons.mp later with same | later
            · exact .inl same
            · rcases ih later with same | ⟨other, mem, found⟩
              · exact .inl same
              · exact .inr ⟨other, .tail _ mem, found⟩

/-- The one form of a path name has no characters of its own but points and slashes. -/
theorem mem_of_mem_normal {path : String} {c : Char} (h : c ∈ (normal path).toList) :
    c = '.' ∨ c = '/' ∨ c ∈ path.toList := by
  have slashes : ∀ c ∈ root path.toList, c = '/' := by
    intro c mem
    unfold root at mem
    split at mem
    · simpa using mem
    · simpa using mem
    · simpa using mem
    · cases mem
  unfold normal at h
  dsimp only at h
  split at h
  · exact .inl (by simpa using h)
  · rw [String.toList_ofList, List.mem_append] at h
    rcases h with leading | later
    · exact .inr (.inl (slashes c leading))
    · rcases mem_of_mem_intercalate later with slash | ⟨part, mem, found⟩
      · exact .inr (.inl slash)
      · exact .inr (.inr (mem_of_mem_parts (List.mem_filter.mp mem).1 found))

end Path

namespace Image

open Host

theorem failsFast_symbolAddress (path symbol : String) :
    (symbolAddress path symbol).FailsFast ToolBlame :=
  .bind (failsFast_toolOutput _ _) fun _ => .pure _

theorem failsFast_markerCount (path symbol : String) :
    (markerCount path symbol).FailsFast ToolBlame :=
  .bind (failsFast_toolOutput _ _) fun _ => .pure _

theorem accountable_checkMarkers (path symbol : String) :
    (checkMarkers path symbol).Accountable amiss := by
  have inspected : (inspect path symbol).FailsFast ToolBlame := by
    apply Act.FailsFast.bind (failsFast_symbolAddress _ _)
    intro found
    cases found with
    | none => exact .fail (.held rfl)
    | some address => exact .bind (failsFast_markerCount _ _) fun _ => .pure _
  apply Act.FailsFast.bind (inspected.mapFault fun last fault => ToolBlame.classify fun _ => rfl)
  intro found
  exact .ite (fun _ => .fail (.held rfl)) fun _ => .note _ _ _

theorem accountable_checkFile {path : String} (null : '\x00' ∈ path.toList → amiss) :
    (checkFile path).Accountable amiss := by
  apply Act.FailsFast.bind (.reads _)
  intro files
  apply Act.FailsFast.ofExcept
  intro fault failed
  simp only [check] at failed
  split at failed
  · next marked =>
      have found : '\x00' ∈ (Path.normal path).toList := by simpa using marked
      rcases Path.mem_of_mem_normal found with point | slash | own
      · cases point
      · cases slash
      · exact .of_amiss (null own)
  · split at failed
    · cases failed
      exact .held rfl
    · split at failed
      · cases failed
      · cases failed
        exact .held rfl

/-- What goes wrong when a tool writes an image has a cause, but for a start that is denied. -/
theorem flashBlame_accounts (path : String) {limit : Float} {arguments : List String}
    (none : arguments = [] → amiss) (h : RunBlame arguments .none (some limit) last fault) :
    Accounts amiss last (flashCause path limit fault) := by
  cases h with
  | empty empty => exact .of_amiss (none empty)
  | notFound program => exact .held rfl
  | denied program => exact .slip (.inr (by simp))
  | timedOut => exact .held rfl

theorem accountable_write {settings : Settings} {path : String}
    (null : '\x00' ∈ path.toList → amiss)
    (unfit : ¬ Command.Starts (settings.flashArguments path) → amiss) :
    (write settings path).Accountable amiss := by
  apply Act.FailsFast.bind (accountable_checkFile null)
  intro _
  apply accountable_command unfit
  intro arguments none
  have ran := (run_settles arguments .none (some settings.flashTimeout)).mapFault
    fun last fault => flashBlame_accounts path none
  exact .bind (.note _ _ _) fun _ => .bind (.note _ _ _) fun _ =>
    ran.checked (fun _ _ => .held rfl) fun _ => .pure _

end Image

namespace Engine

open Host

theorem accountable_entryAddress (path entry : String) :
    (entryAddress path entry).Accountable amiss := by
  have listed := Image.failsFast_symbolAddress path entry
  apply Act.FailsFast.bind (listed.mapFault fun last fault => ToolBlame.classify fun _ => rfl)
  intro found
  cases found with
  | none => exact .fail (.held rfl)
  | some address => exact .pure _

theorem accountable_noteBounds {σ : Type} (i : Nat) (bounds : List Nat) :
    (noteBounds i bounds : Act σ Unit).Accountable amiss := by
  induction bounds generalizing i with
  | nil => exact .pure _
  | cons bound more ih => exact .bind (.note _ _ _) fun _ => ih (i + 1)

/-- What goes wrong when the engine runs has no cause, but for an engine that is not there. -/
theorem engineBlame_accounts {options : String} {arguments : List String}
    (none : arguments = [] → amiss) (h : RunBlame arguments (some options) .none last fault) :
    Accounts amiss last (engineCause fault) := by
  cases h with
  | empty empty => exact .of_amiss (none empty)
  | notFound program => exact .held rfl
  | denied program => exact .slip (.inl (by simp))
  | timedOut => exact .slip rfl

/-- A fault of the engine's output is one of the measurement. -/
theorem accountable_output {σ α : Type} (output : Except EngineFault α) :
    (Act.ofExcept (output.mapError .engine) : Act σ α).Accountable amiss := by
  apply Act.FailsFast.ofExcept
  intro fault failed
  obtain ⟨own, -, rfl⟩ := mapError_eq_error.mp failed
  exact .held rfl

theorem accountable_explore {settings : Settings} {path entry : String} (options : EngineOptions)
    (unfit : ¬ Command.Starts (settings.exploreArguments path entry) → amiss) :
    (explore settings options path entry).Accountable amiss := by
  apply Act.FailsFast.bind (accountable_entryAddress _ _)
  intro address
  apply Act.FailsFast.bind (.note _ _ _)
  intro _
  apply accountable_command unfit
  intro arguments none
  have ran := (run_settles arguments (some options.text) .none).mapFault
    fun last fault => engineBlame_accounts none
  apply ran.checked fun _ _ => .held rfl
  intro finished
  apply Act.FailsFast.bind (accountable_output _)
  intro bounds
  exact .ite (fun _ => .bind (accountable_noteBounds _ _) fun _ => .pure _) fun _ => .pure _

theorem accountable_bound {settings : Settings} {path entry : String} (options : EngineOptions)
    (unfit : ¬ Command.Starts (settings.exploreArguments path entry) → amiss) :
    (bound settings options path entry).Accountable amiss :=
  .bind (accountable_explore options unfit) fun _ => accountable_output _

end Engine

/-! ## Records -/

/-- The image can be measured under the settings as far as they go: its name is one, both commands can be
started, and the offset can be written. -/
structure Settings.Suits (settings : Settings) (path : String) : Prop where
  named : '\x00' ∉ path.toList
  flashes : Command.Starts (settings.flashArguments path)
  explores : Command.Starts (settings.exploreArguments path settings.entrySymbol)
  fits : settings.calibrationOffset < Number.leastTooLong

namespace Bench

variable {settings : Settings} {path : String}

theorem accountable_preflight (settings : Settings) (path : String) :
    (preflight settings path).Accountable amiss := by
  have entry : (do
      let _ ← Engine.entryAddress path settings.entrySymbol : Act Host Unit).Accountable amiss :=
    .bind (Engine.accountable_entryAddress _ _) fun _ => .pure _
  exact .ite (fun _ => .bind (Image.accountable_checkMarkers _ _) fun _ => entry) fun _ => entry

theorem accountable_deploy (null : '\x00' ∈ path.toList → amiss)
    (unfit : ¬ Command.Starts (settings.flashArguments path) → amiss) :
    (Image.deploy settings path).Accountable amiss := by
  have reconnected : (onConnection Session.reconnect).Accountable amiss :=
    .within Session.accountable_reconnect
  exact .bind (.within (Image.accountable_write null unfit)) fun _ => .bind reconnected fun _ => .pure _

/-- The index of the first core is shown in full, so only the offset can be too long. -/
theorem accountable_measureOn (long : Number.fitsDecimal settings.calibrationOffset = false → amiss) :
    (measureOn settings {}).Accountable amiss := by
  have first : Number.fitsDecimal ({} : Core).index = false → amiss := by
    intro unfit
    have fits : Number.fitsDecimal ({} : Core).index = true := Number.fitsDecimal_of_lt (by decide)
    rw [fits] at unfit
    cases unfit
  exact Session.accountable_borrowing first (Sample.accountable_measure first long _)

theorem accountable_measureImage (unsuited : ¬ settings.Suits path → amiss)
    (negative : settings.calibrationOffset < 0 → amiss) :
    (measureImage settings path).Accountable amiss := by
  have long : Number.fitsDecimal settings.calibrationOffset = false → amiss := by
    intro unfit
    by_cases nonneg : 0 ≤ settings.calibrationOffset
    · apply unsuited
      intro suits
      rw [(Number.fitsDecimal_iff nonneg).mpr suits.fits] at unfit
      cases unfit
    · exact negative (Int.not_le.mp nonneg)
  apply Act.FailsFast.bind
  · apply accountable_deploy
    · exact fun marked => unsuited fun suits => suits.named marked
    · exact fun none => unsuited fun suits => none suits.flashes
  · exact fun _ => .within (accountable_measureOn long)

/-- What was measured can be written if the offset is not below zero. -/
theorem fits_of_measureImage (nonneg : 0 ≤ settings.calibrationOffset) {bench : Bench} {n : Int}
    (h : ((measureImage settings path).run bench).result = .ok n) : Number.fitsDecimal n = true := by
  rw [measureImage, Act.run_bind, Course.follow_result_ok] at h
  obtain ⟨_, _, counted⟩ := h
  rw [onConnection, Act.run_within, measureOn, Session.borrowing, Act.run_bind] at counted
  rw [Course.follow_result_ok] at counted
  obtain ⟨_, _, counted⟩ := counted
  simp only [Act.ensuring] at counted
  obtain ⟨counts, bounded⟩ := Sample.bounds_of_measure counted
  apply (Number.fitsDecimal_iff counts).mpr
  have small := Number.lt_leastTooLong
  generalize Number.leastTooLong = long at small ⊢
  omega

theorem accountable_record (unsuited : ¬ settings.Suits path → amiss)
    (negative : settings.calibrationOffset < 0 → amiss) :
    (record settings path).Accountable amiss := by
  apply Act.FailsFast.bind (.within (accountable_preflight settings path))
  intro _
  apply Act.FailsFast.bind_of_result (accountable_measureImage unsuited negative)
  intro measured bench counted
  have bounded : (onHost (Engine.bound settings {} path settings.entrySymbol)).Accountable amiss :=
    .within (Engine.accountable_bound _ fun none => unsuited fun suits => none suits.explores)
  apply Act.FailsFast.bind bounded
  intro bound
  have report {record : Record} : (do
      .note .info .survey
        s!"{record.name}: hw {Number.decimal record.measured} symex {Number.decimal record.bound}"
      pure record : Act Bench Record).Accountable amiss :=
    .bind (.note _ _ _) fun _ => .pure _
  cases fits : Number.fitsDecimal measured with
  | true => exact report
  | false =>
      have below : settings.calibrationOffset < 0 := by
        apply Int.not_le.mp
        intro nonneg
        rw [fits_of_measureImage nonneg counted] at fits
        cases fits
      exact .bind (.fail (.of_amiss (negative below))) fun _ => report

end Bench

end TickBound
