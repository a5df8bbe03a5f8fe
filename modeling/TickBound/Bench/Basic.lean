import TickBound.Bench.Host
import TickBound.Probe.Session

/-!
# The bench

A bench has a host, a link to a probe and a session over that link. Before a session is opened there is
only the world of host and link.
-/

namespace TickBound

/-- The host and the connection to a target. -/
structure Bench where
  host : Host
  connection : Connection

namespace Bench

variable {α : Type}

def onHost (act : Act Host α) : Act Bench α :=
  act.within Bench.host fun bench host => { bench with host }

def onConnection (act : Act Connection α) : Act Bench α :=
  act.within Bench.connection fun bench connection => { bench with connection }

end Bench

/-- What a run has to work with: a host and a link to a probe. -/
structure World where
  host : Host
  link : Link

namespace World

variable {α : Type}

def onLink (act : Act Link α) : Act World α :=
  act.within World.link fun world link => { world with link }

/-- An activity on a bench with the given session. -/
def withSession (session : Session) (act : Act Bench α) : Act World α :=
  act.within (fun world => ⟨world.host, ⟨world.link, session⟩⟩)
    fun _ bench => ⟨bench.host, bench.connection.link⟩

end World

end TickBound
