import TickBound.Number.RealText
import TickBound.Text.Quoted

/-!
# Running other programs

What can come of starting a program, and the wording of the ways in which it can fail. What a program
writes is taken to be text already: bytes that are no text in the encoding of the host are left out.
-/

namespace TickBound

/-- What comes of starting a program. -/
inductive Outcome where
  /-- It ended with an exit code, or by a signal if the code is negative. Both texts could be decoded. -/
  | ended (code : Int) (output errors : String)
  | notFound
  | denied
  | timedOut

structure Finished where
  code : Int
  output : String
  errors : String

inductive ProgramFault where
  | notOnPath (tool : String)
  | notFound (program : String)
  | denied (program : String)
  /-- It ended with an exit code other than zero. -/
  | failed (arguments : List String) (code : Int)
  | timedOut (arguments : List String) (limit : Option Float)

/-- The signals that have a name. -/
def signalName? : Nat → Option String
  | 1 => "SIGHUP"
  | 2 => "SIGINT"
  | 3 => "SIGQUIT"
  | 4 => "SIGILL"
  | 5 => "SIGTRAP"
  | 6 => "SIGABRT"
  | 7 => "SIGBUS"
  | 8 => "SIGFPE"
  | 9 => "SIGKILL"
  | 10 => "SIGUSR1"
  | 11 => "SIGSEGV"
  | 12 => "SIGUSR2"
  | 13 => "SIGPIPE"
  | 14 => "SIGALRM"
  | 15 => "SIGTERM"
  | 16 => "SIGSTKFLT"
  | 17 => "SIGCHLD"
  | 18 => "SIGCONT"
  | 19 => "SIGSTOP"
  | 20 => "SIGTSTP"
  | 21 => "SIGTTIN"
  | 22 => "SIGTTOU"
  | 23 => "SIGURG"
  | 24 => "SIGXCPU"
  | 25 => "SIGXFSZ"
  | 26 => "SIGVTALRM"
  | 27 => "SIGPROF"
  | 28 => "SIGWINCH"
  | 29 => "SIGIO"
  | 30 => "SIGPWR"
  | 31 => "SIGSYS"
  | 34 => "SIGRTMIN"
  | 64 => "SIGRTMAX"
  | _ => none

/-- How a program ended that did not succeed. -/
def endWording (code : Int) : String :=
  if code < 0 then
    match signalName? code.natAbs with
    | some name => s!"died with <Signals.{name}: {Number.decimal code.natAbs}>."
    | none => s!"died with unknown signal {Number.decimal code.natAbs}."
  else s!"returned non-zero exit status {Number.decimal code}."

def ProgramFault.message : ProgramFault → String
  | notOnPath tool => s!"{tool} not found on PATH (install the ARM GNU toolchain)"
  | notFound program => s!"[Errno 2] No such file or directory: {Text.quoted program}"
  | denied program => s!"[Errno 13] Permission denied: {Text.quoted program}"
  | failed arguments code => s!"Command '{Text.quotedList arguments}' {endWording code}"
  | timedOut arguments limit =>
      let seconds := match limit with
        | some x => Number.realText Number.plainNames x
        | none => "None"
      s!"Command '{Text.quotedList arguments}' timed out after {seconds} seconds"

/-- The program could be asked and failed, or could not be started; a time that ran out is neither. -/
def ProgramFault.isFailure : ProgramFault → Bool
  | timedOut _ _ => false
  | _ => true

end TickBound
