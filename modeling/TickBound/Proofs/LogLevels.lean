import TickBound.Proofs.FailureReports

/-!
# The level of progress messages

Nothing that a run does depends on the level from which messages are shown. Settings that differ in an
accepted level make the same run, and of its messages a stricter level shows those that reach it.
-/

namespace TickBound

/-! ## Settings at another level -/

namespace Settings

def atLevel (settings : Settings) (name : String) : Settings :=
  { settings with logLevel := name }

/-- The name of the level in the variables. -/
def levelText (vars : Variables) : String :=
  ((vars Variable.logLevel.key).map Text.trimmed).getD defaults.logLevel

theorem value_logLevel (vars : Variables) :
    value vars .logLevel asText defaults.logLevel = .ok (levelText vars) := by
  unfold value levelText
  cases vars Variable.logLevel.key with
  | none => rfl
  | some text => rfl

theorem Variable.key_ne {v : Variable} (other : v ≠ .logLevel) : v.key ≠ Variable.logLevel.key :=
  fun same => other (Variable.key_inj same)

section

variable {vars vars' : Variables}
  (others : ∀ name, name ≠ Variable.logLevel.key → vars' name = vars name)

include others

theorem value_of_others {α : Type} (v : Variable) (other : v ≠ .logLevel) (conversion : Conversion α)
    (default : α) : value vars' v conversion default = value vars v conversion default := by
  rw [value, value, others v.key (Variable.key_ne other)]

/-- Only the level can differ in what the variables are converted to. -/
theorem convert_of_others : convert vars' = (·.atLevel (levelText vars')) <$> convert vars := by
  simp only [convert, map_bind, value_logLevel, value_of_others others, ne_eq, reduceCtorEq,
    not_false_eq_true]
  rfl

end

theorem logLevel_of_convert {vars : Variables} {settings : Settings}
    (h : convert vars = .ok settings) : settings.logLevel = levelText vars := by
  have own : convert vars = (·.atLevel (levelText vars)) <$> convert vars :=
    convert_of_others fun _ _ => rfl
  rw [h] at own
  have same : settings = settings.atLevel (levelText vars) := Except.ok.inj own
  rw [same]
  rfl

/-- The check looks at the level only to see whether there is one of that name. -/
theorem check_atLevel {settings : Settings} {name : String} {level level' : Level}
    (accepted : Level.ofName? settings.logLevel = some level)
    (accepted' : Level.ofName? name = some level') : check (settings.atLevel name) = check settings := by
  simp only [check, atLevel, accepted, accepted', Option.isNone_some]

theorem read_of_others {vars vars' : Variables} {level level' : Level}
    (others : ∀ name, name ≠ Variable.logLevel.key → vars' name = vars name)
    (accepted : Level.ofName? (levelText vars) = some level)
    (accepted' : Level.ofName? (levelText vars') = some level') :
    read vars' = (·.atLevel (levelText vars')) <$> read vars := by
  rw [read, read, convert_of_others others]
  cases converted : convert vars with
  | error fault => rfl
  | ok settings =>
      rw [← logLevel_of_convert converted] at accepted
      have same := check_atLevel accepted accepted'
      change (check (settings.atLevel (levelText vars')) >>= fun _ =>
        .ok (settings.atLevel (levelText vars'))) = _ <$> (check settings >>= fun _ => .ok settings)
      rw [same]
      cases check settings with
      | error fault => rfl
      | ok u => rfl

end Settings

/-! ## Runs at another level -/

section

variable (settings : Settings) (name : String)

theorem Bench.record_atLevel (path : String) :
    record (settings.atLevel name) path = record settings path :=
  rfl

theorem Bench.printAmong_atLevel (directory : String) (found : List FileTree.Entry) :
    printAmong (settings.atLevel name) directory found = printAmong settings directory found := by
  induction found with
  | nil => rfl
  | cons entry more ih => rw [printAmong, printAmong, ih, record_atLevel]

theorem Bench.printTable_atLevel (directory : String) :
    printTable (settings.atLevel name) directory = printTable settings directory := by
  rw [printTable, printTable, funext (printAmong_atLevel settings name directory)]

theorem Console.surveyWith_atLevel (session : Session) :
    surveyWith (settings.atLevel name) session = surveyWith settings session := by
  rw [surveyWith, surveyWith, Bench.printTable_atLevel]
  rfl

theorem Console.survey_atLevel : survey (settings.atLevel name) = survey settings := by
  rw [survey, survey, funext (surveyWith_atLevel settings name)]
  rfl

/-- The level has no part in what a run does. -/
theorem Console.program_atLevel : program (settings.atLevel name) = program settings := by
  rw [program, program, survey_atLevel]

end

namespace Console

/-! ## What is shown -/

def messages (events : List Event) : List (Level × String) :=
  events.filterMap fun
    | .noted level _ text => some (level, text)
    | _ => none

def shown (threshold : Level) (messages : List (Level × String)) : List (Level × String) :=
  messages.filter fun message => threshold.shows message.1

theorem shownNotes_eq (threshold : Level) (events : List Event) :
    shownNotes threshold events = (shown threshold (messages events)).map Prod.snd := by
  induction events with
  | nil => rfl
  | cons event events ih =>
      cases event with
      | noted level source text =>
          rw [← List.singleton_append, shownNotes_append, ih]
          cases reaches : threshold.shows level with
          | false => simp [shownNotes, shown, messages, reaches]
          | true => simp [shownNotes, shown, messages, reaches]
      | requested | closed | slept | ran | printed => exact ih

/-- What reaches a stricter level is shown at both. -/
theorem shown_shown {level level' : Level} (stricter : level.rank ≤ level'.rank)
    (messages : List (Level × String)) : shown level' (shown level messages) = shown level' messages := by
  rw [shown, shown, shown, List.filter_filter]
  refine List.filter_congr fun message _ => ?_
  cases reaches : level'.shows message.1 with
  | false => rfl
  | true =>
      have high : level.rank ≤ message.1.rank :=
        Nat.le_trans stricter (by simpa [Level.shows] using reaches)
      simpa [Level.shows] using high

/-- The exit code 1 comes with a report that is shown at every level, as the last message. -/
theorem shownNotes_of_exit {settings : Settings} {world : World}
    (one : ((program settings).run world).result = .ok 1) :
    ∃ message, ∀ threshold, ∃ lines,
      shownNotes threshold ((program settings).run world).events = lines ++ [errorLine message] := by
  rw [(program_run settings world).1] at one
  obtain ⟨fault, failed, held⟩ := exitOf_eq_one.mp one
  refine ⟨fault.message, fun threshold => ?_⟩
  rw [program_of_held failed held, shownNotes_append, shownNotes_error]
  exact ⟨_, rfl⟩

theorem run_of_read {vars : Settings.Variables} {settings : Settings} {level : Level} (world : World)
    (read : Settings.read vars = .ok settings)
    (accepted : Level.ofName? settings.logLevel = some level) :
    run vars world = transcript level ((program settings).run world) := by
  simp only [run, read, threshold, accepted, Option.getD_some]

/-- The level of messages decides what is shown of a run and nothing else. Among accepted levels the
ending, the output and the events stay the same; a stricter level shows of what a more verbose one does
just the messages that reach it, and the report of an error is always among them. -/
theorem run_at_levels (world : World) {vars vars' : Settings.Variables} {level level' : Level}
    (others : ∀ name, name ≠ Settings.Variable.logLevel.key → vars' name = vars name)
    (accepted : Level.ofName? (Settings.levelText vars) = some level)
    (accepted' : Level.ofName? (Settings.levelText vars') = some level') :
    let seen := run vars world
    let seen' := run vars' world
    seen'.ending = seen.ending ∧ seen'.output = seen.output ∧ seen'.events = seen.events ∧
      (match Settings.read vars with
        | .error _ => seen'.errors = seen.errors
        | .ok settings =>
            let lines := shown level (messages ((program settings).run world).events)
            seen.errors = linesText (lines.map Prod.snd) ∧
              (level.rank ≤ level'.rank →
                seen'.errors = linesText ((shown level' lines).map Prod.snd))) ∧
      (seen.ending = .ok 1 → ∃ message lines lines',
        seen.errors = linesText (lines ++ [errorLine message]) ∧
          seen'.errors = linesText (lines' ++ [errorLine message])) := by
  have same := Settings.read_of_others others accepted accepted'
  cases read : Settings.read vars with
  | error fault =>
      rw [read] at same
      have refused' : Settings.read vars' = .error fault := same
      simp only [run, read, refused']
      exact ⟨trivial, trivial, trivial, trivial, fun _ => ⟨fault.message, [], [], rfl, rfl⟩⟩
  | ok settings =>
      rw [read] at same
      have read' : Settings.read vars' = .ok (settings.atLevel (Settings.levelText vars')) := same
      have named := Settings.logLevel_of_convert (Settings.read_eq_ok.mp read).1
      have whole := run_of_read world read (named ▸ accepted)
      have whole' := run_of_read world read' accepted'
      rw [program_atLevel] at whole'
      simp only [whole, whole', transcript]
      refine ⟨trivial, trivial, trivial, ⟨by rw [shownNotes_eq], fun stricter => ?_⟩, fun one => ?_⟩
      · rw [shownNotes_eq, shown_shown stricter]
      · obtain ⟨message, reported⟩ := shownNotes_of_exit one
        obtain ⟨lines, last⟩ := reported level
        obtain ⟨lines', last'⟩ := reported level'
        exact ⟨message, lines, lines', by rw [last], by rw [last']⟩

def withLevel (text : String) : Settings.Variables := fun name =>
  if name = Settings.Variable.logLevel.key then some text else onlyProbe name

/-- Without an answer from the probe a run fails, whether its messages are shown from the lowest level on
or not. -/
theorem run_at_levels_unplugged :
    let seen := run (withLevel "debug") unplugged
    let seen' := run (withLevel "\tWarning ") unplugged
    (Level.ofName? (Settings.levelText (withLevel "debug")) = some .debug ∧
      Level.ofName? (Settings.levelText (withLevel "\tWarning ")) = some .warning) ∧
    seen.ending = .ok 1 ∧ seen'.ending = seen.ending ∧ seen'.output = seen.output ∧
    (∃ all, seen.errors = linesText (all.map Prod.snd) ∧
      seen'.errors = linesText ((shown .warning all).map Prod.snd)) ∧
    ∃ message lines lines', seen.errors = linesText (lines ++ [errorLine message]) ∧
      seen'.errors = linesText (lines' ++ [errorLine message]) := by
  have others : ∀ name, name ≠ Settings.Variable.logLevel.key →
      withLevel "\tWarning " name = withLevel "debug" name := fun name other => by
    rw [withLevel, withLevel, if_neg other, if_neg other]
  have accepted : Level.ofName? (Settings.levelText (withLevel "debug")) = some .debug := by rfl
  have accepted' : Level.ofName? (Settings.levelText (withLevel "\tWarning ")) = some .warning := by rfl
  have read : Settings.read (withLevel "debug") =
      .ok { probe := "192.168.4.1", logLevel := "debug" } := by rfl
  have one : (run (withLevel "debug") unplugged).ending = .ok 1 := by rfl
  obtain ⟨ending, output, -, errors, reported⟩ := run_at_levels unplugged others accepted accepted'
  rw [read] at errors
  exact ⟨⟨accepted, accepted'⟩, one, ending, output, ⟨_, errors.1, errors.2 (by decide)⟩,
    reported one⟩

end Console

end TickBound
