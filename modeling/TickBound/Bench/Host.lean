import TickBound.Bench.Act

/-!
# The host

Where the images lie and other programs run. Programs end one after another as it is laid down; a
program beyond that cannot be found.

A limit on the time of a program is taken to be one that the host can keep: a host refuses one that is
infinite, not a number, or 2147484 seconds and more, as it counts in milliseconds of 32 bits. What becomes
of a program under such a limit is left out.
-/

namespace TickBound

structure Host where
  /-- What becomes of the programs that are still to be started. -/
  outcomes : List Outcome
  missingTools : List String
  files : FileTree

namespace Host

/-- Starts a program, with a text to read and a limit on its time. -/
def start (arguments : List String) (input : Option String) (limit : Option Float) : Act Host Outcome :=
  ⟨fun host =>
    let outcome := host.outcomes.headD .notFound
    ⟨.ok outcome, [.ran arguments input limit outcome], { host with outcomes := host.outcomes.tail }⟩⟩

/-- Starts a program and waits for its end, under a limit that the host can keep. -/
def run (arguments : List String) (input : Option String) (limit : Option Float) : Act Host Finished :=
  match arguments with
  | [] => .fail (.outside .emptyCommand)
  | program :: _ => do
      match ← start arguments input limit with
      | .ended code output errors => pure ⟨code, output, errors⟩
      | .notFound => .fail (.outside (.program (.notFound program)))
      | .denied => .fail (.outside (.program (.denied program)))
      | .timedOut => .fail (.outside (.program (.timedOut arguments limit)))

/-- Where the search path has its tools. -/
def toolPlace (tool : String) : String :=
  "/usr/bin/" ++ tool

/-- What a tool of the search path writes. -/
def toolOutput (tool : String) (arguments : List String) : Act Host String := do
  if (← .reads missingTools).contains tool then .fail (.outside (.program (.notOnPath tool)))
  else
    let line := toolPlace tool :: arguments
    let finished ← run line none none
    if finished.code ≠ 0 then .fail (.outside (.program (.failed line finished.code)))
    else pure finished.output

/-- Gives failures of other programs a cause in the measurement. -/
def classify (cause : ProgramFault → Fault) : Fault → Fault
  | .outside (.program fault) => if fault.isFailure then cause fault else .outside (.program fault)
  | fault => fault

end Host

end TickBound
