import TickBound.Survey.Basic

/-!
# The program as it is seen from the console

Settings come from variables, the table goes to the output, and progress and errors go to the error
output. The session with the target is closed at the end, however the run ends. A failure of the
measurement is reported and gives the exit code 1; what comes from outside of it is not held back.
-/

namespace TickBound

/-- What can be seen of a run when it has ended. -/
structure Transcript where
  /-- The exit code, or the fault that was not held back. -/
  ending : Except Fault Nat
  output : String
  errors : String
  events : List Event

namespace Console

/-- Prints the table of the corpus, with a session that is open for just that long. -/
def surveyWith (settings : Settings) (session : Session) : Act Bench Unit := do
  let body : Act Bench Unit := do
    .note .info .console s!"attached to {settings.target} ({session.architecture.display.shown})"
    Bench.printTable settings settings.corpus
  body.ensuring Session.close

/-- A run with settings, up to its first fault. -/
def survey (settings : Settings) : Act World Unit := do
  .note .info .console s!"Utility to measure HW cycles for the {settings.target}"
  let session ←
    World.onLink (Session.attach settings.probe (some settings.target) settings.httpTimeout)
  World.withSession session (surveyWith settings session)

def errorLine (message : String) : String :=
  "Error: " ++ message

def reportFault (fault : Fault) : Act World Nat :=
  if fault.isA .pipeline then do
    .note .error .console (errorLine fault.message)
    pure 1
  else .fail fault

def program (settings : Settings) : Act World Nat :=
  Act.recover (do survey settings; pure 0) reportFault

/-- Ends every line. -/
def linesText (lines : List String) : String :=
  String.join (lines.map (· ++ "\n"))

def printedLines (events : List Event) : List String :=
  events.filterMap fun
    | .printed line => some line
    | _ => none

/-- The progress messages that are shown from a level on. -/
def shownNotes (threshold : Level) (events : List Event) : List String :=
  events.filterMap fun
    | .noted level _ text => if threshold.shows level then some text else none
    | _ => none

/-- The level of settings; that of progress messages if there is no such level. -/
def threshold (settings : Settings) : Level :=
  (Level.ofName? settings.logLevel).getD .info

/-- What is seen of a course with messages from a level on. -/
def transcript {σ : Type} (threshold : Level) (course : Course σ Nat) : Transcript where
  ending := course.result
  output := linesText (printedLines course.events)
  errors := linesText (shownNotes threshold course.events)
  events := course.events.filter Event.isExternal

def run (vars : Settings.Variables) (world : World) : Transcript :=
  match Settings.read vars with
  | .error fault => ⟨.ok 1, "", linesText [errorLine fault.message], []⟩
  | .ok settings => transcript (threshold settings) ((program settings).run world)

end Console

end TickBound
