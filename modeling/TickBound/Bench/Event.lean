import TickBound.Bench.Program
import TickBound.Level

/-!
# What happens during a measurement

Everything that can be seen from outside: requests to the probe with what came back, pauses, programs
that are started with what became of them, progress messages and printed lines.
-/

namespace TickBound

/-- What the probe is asked to do. -/
inductive Request where
  /-- Set up the connection to the target again. -/
  | reset
  | read (address : Int)
  | write (address value : Int)
  deriving DecidableEq

/-- What comes back for a request. -/
inductive Reply where
  | answered (status : Int) (text : String)
  /-- The transport refuses the request. -/
  | refused (reason : String)
  /-- The transport itself breaks down. -/
  | broken (reason : String)
  deriving DecidableEq

namespace Request

/-- Where a request goes, below the address of the probe. -/
def place : Request → String
  | reset => "/target/reset"
  | read address => "/target/memory/read/0x" ++ Number.hex address
  | write address _ => "/target/memory/write/0x" ++ Number.hex address

/-- The text that stands for a word that is written. -/
def dataText (value : Int) : String :=
  "0x" ++ Number.hexPadded 8 value

/-- The members of the object that is sent along; a read sends nothing. -/
def body? : Request → Option (List (String × String))
  | reset => some []
  | read _ => none
  | write _ value => some [("data", dataText value)]

end Request

/-- Which part of the program reports progress. -/
inductive Source where
  | console
  | probe
  | flashing
  | markers
  | sampling
  | engine
  | survey
  deriving DecidableEq

inductive Event where
  | requested (base : String) (request : Request) (timeout : Float) (reply : Reply)
  /-- The session with the probe is closed. -/
  | closed
  | slept (seconds : Float)
  | ran (arguments : List String) (input : Option String) (limit : Option Float) (outcome : Outcome)
  | noted (level : Level) (source : Source) (text : String)
  | printed (line : String)

namespace Event

/-- The event reaches beyond the program itself. -/
def isExternal : Event → Bool
  | noted _ _ _ => false
  | printed _ => false
  | _ => true

end Event

end TickBound
