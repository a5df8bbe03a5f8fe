import TickBound.Console
import TickBound.Recording

/-!
# The command

Takes the settings from the environment and a recorded world from the standard input, and runs the
program on it.
-/

namespace TickBound

/-- The settings that the environment has. -/
def environmentPairs : IO (List (String × String)) := do
  let all : List Settings.Variable :=
    [.probe, .target, .corpus, .entrySymbol, .calibrationOffset, .haltTimeout, .httpTimeout,
      .flashCommand, .flashTimeout, .exploreCommand, .verifyMarkers, .logLevel]
  let pairs ← all.mapM fun v => do
    let value ← IO.getEnv v.key
    pure (value.map fun text => (v.key, text))
  pure (pairs.filterMap id)

/-- Runs the program on a recorded world and gives its exit code. -/
def runRecorded : IO UInt32 := do
  let vars ← environmentPairs
  let input ← (← IO.getStdin).readToEnd
  match Json.read input with
  | .error refusal => do
      IO.eprintln (Console.errorLine refusal.message)
      pure 2
  | .ok value => do
      let world := Recording.world (Recording.membersOf value)
      let transcript := Console.run (fun name => List.lookup name vars) world
      IO.print transcript.output
      IO.eprint transcript.errors
      match transcript.ending with
      | .ok code => pure code.toUInt32
      | .error fault => do
          IO.eprintln fault.message
          pure 1

end TickBound

def main : IO UInt32 :=
  TickBound.runRecorded
